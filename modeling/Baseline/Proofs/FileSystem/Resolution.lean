import Baseline.FileSystem.Walk
import Baseline.Proofs.FileSystem.Tree

/-!
# Where paths lead

A path leads to an address if its names do so one after the other. The relation counts the links
that may still be followed but no steps, and agrees with the resolution of paths. From it come the
laws of resolution: a path with one more name, and a path in a file system with fewer entries.
-/

namespace Baseline.FileSystem

variable {fs other : FileSystem} {last : Bool} {links : Nat} {here address : Address}
  {name : String} {names rest : List String} {path : Path}

/-- Where the target of a link starts from. -/
def targetStart (here : Address) (target : String) : Address :=
  if (Path.parse target).isAbsolute then [] else here

/-- Names lead from a directory to an address, with at most `links` links followed on the way. A
link at the end is followed only if `last` says so. -/
inductive Leads (fs : FileSystem) (last : Bool) :
    Nat → Address → List String → Address → Prop where
  | arrive {links : Nat} {here : Address} : Leads fs last links here [] here
  | up {links : Nat} {here : Address} {rest : List String} {address : Address} :
      Leads fs last links here.dropLast rest address →
      Leads fs last links here (".." :: rest) address
  | stay {links : Nat} {here : Address} {rest : List String} {address : Address} :
      Leads fs last links here rest address → Leads fs last links here ("." :: rest) address
  | enter {links : Nat} {here : Address} {name : String} {rest : List String} {address : Address} :
      isName name = true → name.utf8ByteSize ≤ nameLimit →
      fs.hasDirectory (here ++ [name]) = true →
      Leads fs last links (here ++ [name]) rest address →
      Leads fs last links here (name :: rest) address
  | stop {links : Nat} {here : Address} {name : String} :
      isName name = true → name.utf8ByteSize ≤ nameLimit →
      fs.hasDirectory (here ++ [name]) = false →
      (∀ target, fs.find? (here ++ [name]) = some (.link target) → last = false) →
      Leads fs last links here [name] (here ++ [name])
  | jump {links : Nat} {here : Address} {name target : String} {rest : List String}
      {address : Address} :
      isName name = true → name.utf8ByteSize ≤ nameLimit →
      fs.find? (here ++ [name]) = some (.link target) → target ≠ "" → (rest = [] → last = true) →
      Leads fs last links (targetStart here target) (namesOfTarget target ++ rest) address →
      Leads fs last (links + 1) here (name :: rest) address

/-- A path leads to an address. -/
def LeadsTo (fs : FileSystem) (last : Bool) (path : Path) (address : Address) : Prop :=
  fs.Leads last linkLimit (fs.startOf path) path.parts address

/-- One name leads to what it names, unless that is a link to be followed. -/
theorem leads_singleton (named : isName name = true) (short : name.utf8ByteSize ≤ nameLimit)
    (rests : ∀ target, fs.find? (here ++ [name]) = some (.link target) → last = false) :
    fs.Leads last links here [name] (here ++ [name]) := by
  cases found : fs.hasDirectory (here ++ [name]) with
  | true => exact .enter named short found .arrive
  | false => exact .stop named short found rests

/-- One name leads to what it names, or on from the link that it names. -/
theorem Leads.singleton_cases (leads : fs.Leads last links here [name] address)
    (named : isName name = true) :
    name.utf8ByteSize ≤ nameLimit ∧
      (address = here ++ [name] ∨
        last = true ∧ ∃ target, fs.find? (here ++ [name]) = some (.link target)) := by
  obtain ⟨stay, up⟩ := isName_iff.mp named
  cases leads with
  | up => exact (up rfl).elim
  | stay => exact (stay rfl).elim
  | enter _ short _ further =>
      cases further
      exact ⟨short, .inl rfl⟩
  | stop _ short => exact ⟨short, .inl rfl⟩
  | jump _ short found _ followed => exact ⟨short, .inr ⟨followed rfl, _, found⟩⟩

/-! ## Agreement with the resolution of paths -/

theorem leads_of_follow {fuel : Nat} {place : Place}
    (reached : fs.follow last links fuel here names = .ok place) :
    fs.Leads last links here names place.address ∧ place.entry = fs.find? place.address := by
  fun_induction follow fs last links fuel here names with
  | case1 | case5 | case7 | case11 | case13 | case14 => contradiction
  | case2 =>
      cases reached
      exact ⟨.arrive, rfl⟩
  | case3 _ _ _ _ induction => exact ⟨.up (induction reached).1, (induction reached).2⟩
  | case4 _ _ _ _ induction => exact ⟨.stay (induction reached).1, (induction reached).2⟩
  | case6 _ _ here name rest up stay short _ found single
  | case8 _ _ here name rest up stay short _ _ found single
  | case10 _ _ here name rest up stay short _ _ _ found single
  | case12 _ _ here name rest up stay short _ _ found single =>
      -- The way ends here: nothing, a directory, a file, or a link that is not followed.
      simp only [Bool.and_eq_true, List.isEmpty_iff, Bool.not_eq_true'] at single
      cases reached
      refine ⟨?_, found.symm⟩
      simp only [single]
      refine leads_singleton (isName_iff.mpr ⟨stay, up⟩) (Nat.not_lt.mp short) ?_
      intro target link
      have same := found.symm.trans link
      simp_all
  | case9 _ _ here name rest up stay short _ locked found _ induction =>
      have room := hasDirectory_iff.mpr ⟨locked, found⟩
      exact ⟨.enter (isName_iff.mpr ⟨stay, up⟩) (Nat.not_lt.mp short) room (induction reached).1,
        (induction reached).2⟩
  | case15 _ here name rest up stay short _ target found followed filled links _ induction =>
      refine ⟨.jump (isName_iff.mpr ⟨stay, up⟩) (Nat.not_lt.mp short) found (by simpa using filled)
        ?_ (induction reached).1, (induction reached).2⟩
      rintro rfl
      simpa using followed

/-- The length of the longest target of a link. -/
def longestTarget (fs : FileSystem) : Nat :=
  fs.entries.foldl (fun longest (_, entry) =>
    match entry with
    | .link target => max longest target.length
    | _ => longest) 0

theorem stepLimit_eq (fs : FileSystem) (path : Path) :
    fs.stepLimit path = path.parts.length + (linkLimit + 1) * (fs.longestTarget + 1) + 1 := rfl

theorem le_foldl_of_mem {β : Type} {grow : Nat → β → Nat} (grows : ∀ n b, n ≤ grow n b) {b : β}
    {bound : Nat} (reached : ∀ n, bound ≤ grow n b) {bs : List β} (member : b ∈ bs) (least : Nat) :
    bound ≤ bs.foldl grow least := by
  have kept : ∀ (bs : List β) (least : Nat), least ≤ bs.foldl grow least := by
    intro bs
    induction bs with
    | nil => exact fun least => Nat.le_refl least
    | cons first bs induction => exact fun least => (grows least first).trans (induction _)
  induction bs generalizing least with
  | nil => contradiction
  | cons first bs induction =>
      rw [List.foldl_cons]
      rcases List.mem_cons.mp member with rfl | member
      · exact (reached least).trans (kept bs _)
      · exact induction member _

theorem length_le_longestTarget {target : String}
    (found : fs.find? address = some (.link target)) : target.length ≤ fs.longestTarget := by
  have present : address ≠ [] := by
    rintro rfl
    simp at found
  refine le_foldl_of_mem ?_ ?_ (mem_entries_of_find? present found) 0
  · rintro longest ⟨_, entry⟩
    cases entry with
    | link other => exact le_max_left longest other.length
    | file bytes locked => exact Nat.le_refl longest
    | directory locked => exact Nat.le_refl longest
  · intro longest
    exact le_max_right longest target.length

theorem length_filter_pieces_le (cs : List Char) :
    ((Text.pieces '/' cs).filter (· ≠ [])).length ≤ cs.length := by
  induction cs with
  | nil => simp [Text.pieces, Text.piecesBy]
  | cons c rest induction =>
      simp only [Text.pieces, Text.piecesBy] at induction ⊢
      split
      · simpa using Nat.le_succ_of_le induction
      · split
        · simp
        · rename_i piece pieces cut
          rw [cut] at induction
          simp only [List.filter_cons] at induction ⊢
          split at induction <;> (simp_all; try omega)

theorem length_parts_parse_le (s : String) : (Path.parse s).parts.length ≤ s.length := by
  have shorter := length_filter_pieces_le s.toList
  rw [← List.countP_eq_length_filter, String.length_toList] at shorter
  simp only [Path.parse, Text.splitAt]
  rw [← List.countP_eq_length_filter, List.countP_map]
  refine le_trans (List.countP_mono_left ?_) shorter
  intro piece _ kept
  have filled : String.ofList piece ≠ "" ∧ String.ofList piece ≠ "." := by simpa using kept
  simp only [ne_eq, decide_eq_true_eq]
  rintro rfl
  exact filled.1 rfl

theorem length_namesOfTarget_le (target : String) :
    (namesOfTarget target).length ≤ target.length + 1 := by
  have bounded := length_parts_parse_le target
  unfold namesOfTarget
  split <;> simp only [List.length_append, List.length_singleton] <;> omega

/-- A step for each name, and those of a target for each link, suffice to follow names. -/
theorem follow_of_leads (leads : fs.Leads last links here names address) {fuel : Nat}
    (enough : names.length + links * (fs.longestTarget + 1) + 1 ≤ fuel) :
    fs.follow last links fuel here names = .ok ⟨address, fs.find? address⟩ := by
  induction leads generalizing fuel with
  | arrive =>
      cases fuel with
      | zero => omega
      | succ fuel => rfl
  | up _ induction =>
      cases fuel with
      | zero => omega
      | succ fuel =>
          rw [follow]
          exact induction (by simp only [List.length_cons] at enough; omega)
  | stay _ induction =>
      cases fuel with
      | zero => omega
      | succ fuel =>
          rw [follow]
          exact induction (by simp only [List.length_cons] at enough; omega)
  | enter named short room further induction =>
      obtain ⟨stay, up⟩ := isName_iff.mp named
      obtain ⟨locked, found⟩ := hasDirectory_iff.mp room
      cases fuel with
      | zero => omega
      | succ fuel =>
          rw [follow.eq_5 _ _ _ _ _ _ _ up stay]
          simp only [found, Nat.not_lt.mpr short, if_false]
          split
          · rename_i single
            cases List.isEmpty_iff.mp single
            cases further
            rw [found]
          · exact induction (by simp only [List.length_cons] at enough; omega)
  | stop named short room rests =>
      obtain ⟨stay, up⟩ := isName_iff.mp named
      cases fuel with
      | zero => omega
      | succ fuel =>
          rw [follow.eq_5 _ _ _ _ _ _ _ up stay]
          simp only [Nat.not_lt.mpr short, if_false]
          split
          · rename_i found
            simp [found]
          · rename_i found
            simp [found]
          · rename_i found
            simp [found]
          · rename_i target found
            simp [found, rests target found]
  | @jump links here name target rest address named short found filled followed _ induction =>
      obtain ⟨stay, up⟩ := isName_iff.mp named
      have bounded := length_le_longestTarget found
      have added := length_namesOfTarget_le target
      have unfinished : (rest.isEmpty && !last) = false := by
        cases rest with
        | nil => simp [followed rfl]
        | cons => rfl
      cases fuel with
      | zero => omega
      | succ fuel =>
          rw [follow.eq_5 _ _ _ _ _ _ _ up stay]
          simp only [found, Nat.not_lt.mpr short, unfinished, if_false, beq_iff_eq, filled,
            Bool.false_eq_true]
          apply induction
          simp only [List.length_cons, List.length_append, Nat.add_mul, Nat.one_mul] at enough ⊢
          omega

/-- A path is located where it leads, with what stands there. -/
theorem locate_eq_ok_iff {place : Place} :
    fs.locate last path = .ok place ↔
      fs.LeadsTo last path place.address ∧ place.entry = fs.find? place.address := by
  constructor
  · exact leads_of_follow
  · rintro ⟨leads, same⟩
    have enough : path.parts.length + linkLimit * (fs.longestTarget + 1) + 1 ≤
        fs.stepLimit path := by
      rw [stepLimit_eq, Nat.add_mul]
      omega
    rw [locate, follow_of_leads leads enough, ← same]

theorem LeadsTo.locate (leads : fs.LeadsTo last path address) :
    fs.locate last path = .ok ⟨address, fs.find? address⟩ :=
  locate_eq_ok_iff.mpr ⟨leads, rfl⟩

/-! ## Laws of the relation -/

/-- Where names lead does not depend on how the way was found. -/
theorem Leads.unique {second : Address} (one : fs.Leads last links here names address)
    (two : fs.Leads last links here names second) : address = second := by
  have first := follow_of_leads one (Nat.le_refl _)
  rw [follow_of_leads two (Nat.le_refl _)] at first
  cases first
  rfl

/-- More links may be followed than are met. -/
theorem Leads.weaken {more : Nat} (leads : fs.Leads last links here names address)
    (fewer : links ≤ more) : fs.Leads last more here names address := by
  induction leads generalizing more with
  | arrive => exact .arrive
  | up _ induction => exact .up (induction fewer)
  | stay _ induction => exact .stay (induction fewer)
  | enter named short room _ induction => exact .enter named short room (induction fewer)
  | stop named short room rests => exact .stop named short room rests
  | jump named short found filled followed _ induction =>
      cases more with
      | zero => omega
      | succ more =>
          exact .jump named short found filled followed (induction (Nat.le_of_succ_le_succ fewer))

/-- A way to a directory goes on from there. -/
theorem Leads.append {middle : Address} (leads : fs.Leads true links here names middle)
    (room : fs.hasDirectory middle = true) (rest_ne : rest ≠ [])
    (further : fs.Leads last 0 middle rest address) :
    fs.Leads last links here (names ++ rest) address := by
  induction leads with
  | arrive => exact further.weaken (Nat.zero_le _)
  | up _ induction => exact .up (induction room further)
  | stay _ induction => exact .stay (induction room further)
  | enter named short inside _ induction => exact .enter named short inside (induction room further)
  | stop named short outside =>
      rw [outside] at room
      contradiction
  | jump named short found filled _ _ induction =>
      refine .jump named short found filled ?_ ?_
      · intro empty
        exact (rest_ne (List.append_eq_nil_iff.mp empty).2).elim
      · have joined := induction room further
        rw [List.append_assoc] at joined
        exact joined

theorem hasDirectory_targetStart (room : fs.hasDirectory here = true) (target : String) :
    fs.hasDirectory (targetStart here target) = true := by
  rw [targetStart]
  split
  · rfl
  · exact room

/-- A way that goes on after some names reaches a directory by them, and follows no more links from
there. -/
theorem Leads.split_le (housed : fs.IsHoused)
    (leads : fs.Leads last links here (names ++ rest) address)
    (room : fs.hasDirectory here = true) (rest_ne : rest ≠ []) :
    ∃ middle fewer, fewer ≤ links ∧ fs.Leads true links here names middle ∧
      fs.hasDirectory middle = true ∧ fs.Leads last fewer middle rest address := by
  generalize whole : names ++ rest = all at leads
  induction leads generalizing names with
  | arrive => exact (rest_ne (List.append_eq_nil_iff.mp whole).2).elim
  | up leads induction =>
      cases names with
      | nil =>
          obtain rfl : rest = _ := whole
          exact ⟨_, _, Nat.le_refl _, .arrive, room, .up leads⟩
      | cons first names =>
          obtain ⟨rfl, remaining⟩ := List.cons.inj whole
          obtain ⟨middle, fewer, bound, first, inside, second⟩ :=
            induction (housed.dropLast room) remaining
          exact ⟨middle, fewer, bound, .up first, inside, second⟩
  | stay leads induction =>
      cases names with
      | nil =>
          obtain rfl : rest = _ := whole
          exact ⟨_, _, Nat.le_refl _, .arrive, room, .stay leads⟩
      | cons first names =>
          obtain ⟨rfl, remaining⟩ := List.cons.inj whole
          obtain ⟨middle, fewer, bound, first, inside, second⟩ := induction room remaining
          exact ⟨middle, fewer, bound, .stay first, inside, second⟩
  | enter named short entered leads induction =>
      cases names with
      | nil =>
          obtain rfl : rest = _ := whole
          exact ⟨_, _, Nat.le_refl _, .arrive, room, .enter named short entered leads⟩
      | cons first names =>
          obtain ⟨rfl, remaining⟩ := List.cons.inj whole
          obtain ⟨middle, fewer, bound, first, inside, second⟩ := induction entered remaining
          exact ⟨middle, fewer, bound, .enter named short entered first, inside, second⟩
  | stop named short outside rests =>
      cases names with
      | nil =>
          obtain rfl : rest = _ := whole
          exact ⟨_, 0, Nat.zero_le _, .arrive, room, .stop named short outside rests⟩
      | cons first names =>
          obtain ⟨-, remaining⟩ := List.cons.inj whole
          exact (rest_ne (List.append_eq_nil_iff.mp remaining).2).elim
  | jump named short found filled followed leads induction =>
      cases names with
      | nil =>
          obtain rfl : rest = _ := whole
          exact ⟨_, _, Nat.le_refl _, .arrive, room, .jump named short found filled followed leads⟩
      | cons first names =>
          obtain ⟨rfl, rfl⟩ := List.cons.inj whole
          obtain ⟨middle, fewer, bound, first, inside, second⟩ :=
            induction (hasDirectory_targetStart room _) (List.append_assoc _ _ _)
          exact ⟨middle, fewer, Nat.le_succ_of_le bound,
            .jump named short found filled (fun _ => rfl) first, inside, second⟩

/-- A way that goes on after some names reaches a directory by them. -/
theorem Leads.split (housed : fs.IsHoused)
    (leads : fs.Leads last links here (names ++ rest) address)
    (room : fs.hasDirectory here = true) (rest_ne : rest ≠ []) :
    ∃ middle fewer, fs.Leads true links here names middle ∧ fs.hasDirectory middle = true ∧
      fs.Leads last fewer middle rest address := by
  obtain ⟨middle, fewer, -, first, inside, second⟩ := leads.split_le housed room rest_ne
  exact ⟨middle, fewer, first, inside, second⟩

/-- Following a link at the end makes no difference where no link stands. -/
theorem Leads.followed (leads : fs.Leads false links here names address)
    (rests : ∀ target, fs.find? address ≠ some (.link target)) :
    fs.Leads true links here names address := by
  induction leads with
  | arrive => exact .arrive
  | up _ induction => exact .up (induction rests)
  | stay _ induction => exact .stay (induction rests)
  | enter named short room _ induction => exact .enter named short room (induction rests)
  | stop named short outside =>
      exact .stop named short outside fun target found => (rests target found).elim
  | jump named short found filled _ _ induction =>
      exact .jump named short found filled (fun _ => rfl) (induction rests)

/-- Names lead to the same address where there are more entries, unless a link is followed that was
not there. -/
theorem Leads.embed (leads : fs.Leads last links here names address) (embeds : fs.Embeds other)
    (ends : last = false ∨
      (fs.find? address = none → ∀ target, other.find? address ≠ some (.link target))) :
    other.Leads last links here names address := by
  induction leads with
  | arrive => exact .arrive
  | up _ induction => exact .up (induction ends)
  | stay _ induction => exact .stay (induction ends)
  | enter named short room _ induction =>
      exact .enter named short (embeds.hasDirectory room) (induction ends)
  | @stop links here name named short outside rests =>
      refine leads_singleton named short ?_
      intro target link
      rcases ends with resting | fresh
      · exact resting
      · cases found : fs.find? (here ++ [name]) with
        | none => exact (fresh found target link).elim
        | some entry =>
            have image := embeds _ entry found
            rw [link] at image
            cases entry with
            | link other => exact rests other found
            | file bytes locked => simp [Entry.bare] at image
            | directory locked => simp [Entry.bare] at image
  | jump named short found filled followed _ induction =>
      exact .jump named short (embeds.link found) filled followed (induction ends)

/-! ## Paths and their parts -/

theorem hasDirectory_startOf (tree : fs.IsTree) (path : Path) :
    fs.hasDirectory (fs.startOf path) = true := by
  rw [startOf]
  split
  · rfl
  · exact tree.started

theorem startOf_of_isAbsolute (absolute : path.isAbsolute = true) : fs.startOf path = [] := by
  simp [startOf, absolute]

theorem hasDirectory_startOf_of_isAbsolute (absolute : path.isAbsolute = true) :
    fs.hasDirectory (fs.startOf path) = true := by
  rw [startOf_of_isAbsolute absolute, hasDirectory_nil]

theorem startOf_of_current (same : other.current = fs.current) (path : Path) :
    other.startOf path = fs.startOf path := by
  rw [startOf, startOf, same]

theorem absolute_of_current (same : other.current = fs.current) (path : Path) :
    other.absolute path = fs.absolute path := by
  rw [absolute, absolute, same]

theorem expandHome_of_homes (same : other.homes = fs.homes) (path : Path) :
    other.expandHome path = fs.expandHome path := by
  rw [expandHome, expandHome, same]

/-- Only a relative path can name a home directory. -/
theorem expandHome_of_isAbsolute (whole : path.isAbsolute = true) :
    fs.expandHome path = .ok path := by
  unfold expandHome
  split
  · rename_i rootless _
    simp [Path.isAbsolute, rootless] at whole
  · rfl

theorem fromRoot_of_isAbsolute (whole : path.isAbsolute = true) : fs.fromRoot path = path := by
  rw [fromRoot, expandHome_of_isAbsolute whole]
  exact Path.join_of_isAbsolute whole

/-- The home directory of a path is not known exactly if the path starts with a tilde and the name
of a user of whom none is. -/
theorem expandHome_eq_error_iff {error : PathError} :
    fs.expandHome path = .error error ↔
      (∃ user rest, path = ⟨.none, String.ofList ('~' :: user) :: rest⟩ ∧
        fs.homes.lookup (String.ofList user) = none) ∧ error = .noHome := by
  obtain ⟨root, parts⟩ := path
  constructor
  · intro unknown
    unfold expandHome at unknown
    split at unknown
    · rename_i first rest rootless parted
      obtain rfl : root = .none := rootless
      obtain rfl : parts = first :: rest := parted
      split at unknown
      · rename_i user spelled
        split at unknown
        · cases unknown
        · rename_i stranger
          cases unknown
          exact ⟨⟨user, rest, by rw [← spelled, String.ofList_toList], stranger⟩, rfl⟩
      · cases unknown
    · cases unknown
  · rintro ⟨⟨user, rest, same, stranger⟩, rfl⟩
    cases same
    simp only [expandHome, String.toList_ofList, stranger]

theorem fromRoot_of_homes (current : other.current = fs.current) (homes : other.homes = fs.homes)
    (path : Path) : other.fromRoot path = fs.fromRoot path := by
  rw [fromRoot, fromRoot, expandHome_of_homes homes, absolute_of_current current]

/-- The directory at which a path starts is there where there are more entries. -/
theorem hasDirectory_startOf_of_embeds (embeds : fs.Embeds other)
    (same : other.current = fs.current) (begun : fs.hasDirectory (fs.startOf path) = true) :
    other.hasDirectory (other.startOf path) = true := by
  rw [startOf_of_current same]
  exact embeds.hasDirectory begun

/-- A directory to which a path leads is no link that could be followed. -/
theorem LeadsTo.followed_of_hasDirectory (leads : fs.LeadsTo false path address)
    (room : fs.hasDirectory address = true) : fs.LeadsTo true path address :=
  Leads.followed leads (ne_link_of_hasDirectory room)

/-- A path with names added leads where these lead from the directory of the path. -/
theorem LeadsTo.extend {middle : Address} (leads : fs.LeadsTo true path middle)
    (room : fs.hasDirectory middle = true) (rest_ne : rest ≠ [])
    (further : fs.Leads last 0 middle rest address) :
    fs.LeadsTo last ⟨path.root, path.parts ++ rest⟩ address :=
  Leads.append leads room rest_ne further

/-- A path with names added leads by way of a directory to which the path leads. -/
theorem LeadsTo.split (housed : fs.IsHoused)
    (leads : fs.LeadsTo last ⟨path.root, path.parts ++ rest⟩ address)
    (room : fs.hasDirectory (fs.startOf path) = true) (rest_ne : rest ≠ []) :
    ∃ middle fewer, fs.LeadsTo true path middle ∧ fs.hasDirectory middle = true ∧
      fs.Leads last fewer middle rest address :=
  Leads.split housed leads room rest_ne

theorem LeadsTo.unique {second : Address} (one : fs.LeadsTo last path address)
    (two : fs.LeadsTo last path second) : address = second :=
  Leads.unique one two

theorem LeadsTo.embed (leads : fs.LeadsTo last path address) (embeds : fs.Embeds other)
    (same : other.current = fs.current)
    (ends : last = false ∨
      (fs.find? address = none → ∀ target, other.find? address ≠ some (.link target))) :
    other.LeadsTo last path address := by
  rw [LeadsTo]
  rw [startOf_of_current same]
  exact Leads.embed leads embeds ends

/-- A path to a directory leads there as well where there are more entries. -/
theorem LeadsTo.embed_of_hasDirectory (leads : fs.LeadsTo last path address)
    (embeds : fs.Embeds other) (same : other.current = fs.current)
    (room : fs.hasDirectory address = true) : other.LeadsTo last path address := by
  refine leads.embed embeds same (.inr ?_)
  intro absent
  rw [hasDirectory_of_absent absent] at room
  contradiction

/-! ## What a path is said to lead to -/

theorem target?_eq_ok_some_iff {entry : Entry} :
    fs.target? path = .ok (some entry) ↔
      hasNull path = false ∧
        ∃ address, fs.LeadsTo true path address ∧ fs.find? address = some entry := by
  rw [target?]
  cases null : hasNull path with
  | true => simp
  | false =>
      simp only [Bool.false_eq_true, if_false, true_and]
      cases located : fs.locate true path with
      | error fault =>
          simp only
          constructor
          · intro found
            split at found <;> simp at found
          · rintro ⟨address, leads, -⟩
            rw [leads.locate] at located
            contradiction
      | ok place =>
          obtain ⟨leads, same⟩ := locate_eq_ok_iff.mp located
          simp only [Except.ok.injEq, same]
          constructor
          · intro found
            exact ⟨place.address, leads, found⟩
          · rintro ⟨address, second, found⟩
            rw [leads.unique second, found]

theorem pathExists_eq_ok_true_iff :
    fs.pathExists path = .ok true ↔
      hasNull path = false ∧ ∃ address, fs.LeadsTo true path address ∧ fs.find? address ≠ none := by
  have there : fs.pathExists path = .ok true ↔ ∃ entry, fs.target? path = .ok (some entry) := by
    rw [pathExists]
    rcases fs.target? path with e | (_ | entry) <;> simp [Except.map]
  simp only [there, target?_eq_ok_some_iff, Option.ne_none_iff_exists']
  constructor
  · rintro ⟨entry, null, address, leads, found⟩
    exact ⟨null, address, leads, entry, found⟩
  · rintro ⟨null, address, leads, entry, found⟩
    exact ⟨entry, null, address, leads, found⟩

theorem isDirectory_eq_ok_true_iff :
    fs.isDirectory path = .ok true ↔
      hasNull path = false ∧
        ∃ address, fs.LeadsTo true path address ∧ fs.hasDirectory address = true := by
  have there : fs.isDirectory path = .ok true ↔
      ∃ locked, fs.target? path = .ok (some (.directory locked)) := by
    rw [isDirectory]
    rcases fs.target? path with e | (_ | (_ | _ | _)) <;> simp [Except.map]
  simp only [there, target?_eq_ok_some_iff, hasDirectory_iff]
  constructor
  · rintro ⟨locked, null, address, leads, found⟩
    exact ⟨null, address, leads, locked, found⟩
  · rintro ⟨null, address, leads, locked, found⟩
    exact ⟨locked, null, address, leads, found⟩

theorem leadsToDirectory_iff :
    fs.leadsToDirectory path = true ↔
      hasNull path = false ∧
        ∃ address, fs.LeadsTo true path address ∧ fs.hasDirectory address = true := by
  rw [← isDirectory_eq_ok_true_iff]
  rw [leadsToDirectory]
  cases fs.isDirectory path <;> simp

theorem leadsToFile_iff :
    fs.leadsToFile path = true ↔
      hasNull path = false ∧ ∃ address bytes locked, fs.LeadsTo true path address ∧
        fs.find? address = some (.file bytes locked) := by
  have there : fs.leadsToFile path = true ↔
      ∃ bytes locked, fs.target? path = .ok (some (.file bytes locked)) := by
    rw [leadsToFile, isFile]
    rcases fs.target? path with e | (_ | (_ | _ | _)) <;> simp [Except.map]
  simp only [there, target?_eq_ok_some_iff]
  constructor
  · rintro ⟨bytes, locked, null, address, leads, found⟩
    exact ⟨null, address, bytes, locked, leads, found⟩
  · rintro ⟨null, address, bytes, locked, leads, found⟩
    exact ⟨bytes, locked, null, address, leads, found⟩

/-- Where a path leads to a file, it names a file or a link. -/
theorem LeadsTo.stands_of_leadsToFile (leads : fs.LeadsTo last path address)
    (file : fs.leadsToFile path = true) :
    fs.find? address ≠ none ∧ fs.hasDirectory address = false := by
  obtain ⟨-, place, bytes, locked, leadsFile, found⟩ := leadsToFile_iff.mp file
  have followed : (∀ target, fs.find? address ≠ some (.link target)) → address = place := by
    intro unlinked
    cases last with
    | true => exact leads.unique leadsFile
    | false => exact Leads.unique (Leads.followed leads unlinked) leadsFile
  cases stored : fs.find? address with
  | none =>
      obtain rfl := followed (by simp [stored])
      cases stored.symm.trans found
  | some entry =>
      refine ⟨by simp, ?_⟩
      cases entry with
      | file bytes locked => simp [hasDirectory, stored]
      | link target => simp [hasDirectory, stored]
      | directory locked =>
          obtain rfl := followed (by simp [stored])
          cases stored.symm.trans found

theorem isLink_iff :
    fs.isLink path = true ↔
      ∃ address target, fs.LeadsTo false path address ∧
        fs.find? address = some (.link target) := by
  rw [isLink]
  constructor
  · intro linked
    split at linked
    · rename_i address target located
      obtain ⟨leads, found⟩ := locate_eq_ok_iff.mp located
      exact ⟨address, target, leads, found.symm⟩
    · contradiction
  · rintro ⟨address, target, leads, found⟩
    simp [leads.locate, found]

theorem list_eq_ok_iff :
    fs.list path = .ok names ↔
      ∃ address, fs.LeadsTo true path address ∧
        fs.find? address = some (.directory false) ∧ names = fs.names address := by
  rw [list]
  constructor
  · intro listed
    split at listed
    case h_3 address located =>
      obtain ⟨leads, found⟩ := locate_eq_ok_iff.mp located
      exact ⟨address, leads, found.symm, (Except.ok.inj listed).symm⟩
    all_goals contradiction
  · rintro ⟨address, leads, found, rfl⟩
    simp [leads.locate, found]

end Baseline.FileSystem
