/-!
# Line ends

A text file may end its lines with a line feed, with a carriage return, or with a carriage return
and a line feed; read as text, each of the three is one line feed.
-/

namespace Baseline.Text

/-- Every line end as a single line feed; `afterReturn` tells that a carriage return was just
read. -/
def unifyFrom (afterReturn : Bool) : List Char → List Char
  | [] => []
  | '\r' :: rest => '\n' :: unifyFrom true rest
  | '\n' :: rest => if afterReturn then unifyFrom false rest else '\n' :: unifyFrom false rest
  | c :: rest => c :: unifyFrom false rest

/-- Every line end as a single line feed. -/
def unifyNewlines (cs : List Char) : List Char :=
  unifyFrom false cs

example : unifyNewlines "a\r\nb\rc\n\r\n".toList = "a\nb\nc\n\n".toList := by decide

end Baseline.Text
