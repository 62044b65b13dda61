import Baseline.Configuration
import Baseline.Proofs.Except

/-!
# Where the paths of a configuration start

Paths are resolved from the root. So whatever a value of a configuration says, the path that it names
starts at the root.
-/

namespace Baseline

namespace FileSystem

variable {fs : FileSystem} {fuel : Nat} {seen : SeenLinks} {here path resolved : Path}
  {names : List String}

/-- Every link that has been resolved leads to a path from the root. -/
def SeenLinks.AreRooted (seen : SeenLinks) : Prop :=
  ∀ link target, (link, some target) ∈ seen → target.root = .single

theorem SeenLinks.AreRooted.cons {link : Path} (rooted : seen.AreRooted)
    (found : resolved.root = .single) : SeenLinks.AreRooted ((link, some resolved) :: seen) := by
  intro other target member
  rcases List.mem_cons.mp member with same | member
  · obtain ⟨-, rfl⟩ : other = link ∧ target = resolved := by simpa using same
    exact found
  · exact rooted other target member

theorem SeenLinks.AreRooted.pending {link : Path} (rooted : seen.AreRooted) :
    SeenLinks.AreRooted ((link, none) :: seen) := by
  intro other target member
  rcases List.mem_cons.mp member with same | member
  · simp at same
  · exact rooted other target member

/-- The target of a link is resolved from the root, whether it starts there or where the link is. -/
theorem root_base (rooted : here.root = .single) (target : Path) :
    (if target.isAbsolute then Path.mk .single [] else here).root = .single := by
  split
  · rfl
  · exact rooted

/-- Resolving goes on from the root where it started there, also behind links. -/
theorem root_resolveFrom (rooted : here.root = .single) (known : seen.AreRooted) :
    (fs.resolveFrom fuel seen here names).1.root = .single ∧
      SeenLinks.AreRooted (fs.resolveFrom fuel seen here names).2.2 := by
  fun_induction resolveFrom fs fuel seen here names with
  | case1 => exact ⟨rooted, known⟩
  | case2 => exact ⟨rooted, known⟩
  | case3 _ _ _ _ induction => exact induction rooted known
  | case4 _ _ _ _ _ _ next _ _ _ resolved stored induction =>
      refine induction ?_ known
      obtain ⟨before, after, split, -⟩ := List.lookup_eq_some_iff.mp stored
      exact known next resolved (by simp [split])
  | case5 => exact ⟨rooted, known⟩
  | case6 _ _ _ _ _ _ next _ _ _ _ path base resolved seen found inner outer =>
      have ends := inner (root_base rooted path) known.pending
      rw [found] at ends
      exact outer ends.1 (ends.2.cons ends.1)
  | case7 _ _ _ _ _ _ next _ _ _ _ path base resolved complete seen found _ inner =>
      have ends := inner (root_base rooted path) known.pending
      rw [found] at ends
      exact ends
  | case8 _ _ _ _ _ _ _ _ induction => exact induction rooted known

theorem isAbsolute_of_resolve (resolves : fs.resolve path = .ok resolved) :
    resolved.isAbsolute = true := by
  rw [resolve] at resolves
  split at resolves
  · contradiction
  · simp only at resolves
    split at resolves
    · contradiction
    · cases resolves
      have start : SeenLinks.AreRooted [] := by
        intro link target member
        contradiction
      have rooted {fuel : Nat} {names : List String} :
          (fs.resolveFrom fuel [] ⟨.single, []⟩ names).1.root = .single :=
        (root_resolveFrom rfl start).1
      simp [Path.isAbsolute, collapse, rooted]

end FileSystem

namespace Configuration

open FileSystem

variable {fs : FileSystem} {root path : Path} {value : Yaml.Value}

theorem resolve_of_ofPath {made : Except PathError Path} (found : ofPath made = .ok path) :
    made = .ok path := by
  cases made with
  | error e => contradiction
  | ok other =>
      cases found
      rfl

theorem isAbsolute_of_pathOf? (named : pathOf? fs root value = .ok (some path)) :
    path.isAbsolute = true := by
  rw [pathOf?] at named
  obtain ⟨text, -, named⟩ := Except.exists_of_bind_eq_ok named
  split at named
  · cases named
  · cases named
  · obtain ⟨expanded, -, named⟩ := Except.exists_of_bind_eq_ok named
    split at named
    · rename_i absolute
      cases named
      exact absolute
    · obtain ⟨resolved, resolves, named⟩ := Except.exists_of_bind_eq_ok named
      cases named
      exact isAbsolute_of_resolve (resolve_of_ofPath resolves)

end Configuration

end Baseline
