import Baseline.Proofs.FileSystem.Plain
import Mathlib.Data.Nat.Find

/-!
# Resolved paths

A path that leads to a file or a directory is resolved to the path from the root to where it leads.
On the way a link is looked up among those that were met: a link that is still being resolved is not
met again, since it would have to be followed within its own target.
-/

namespace Baseline.FileSystem

variable {fs : FileSystem} {last : Bool} {links fuel : Nat} {seen : SeenLinks}
  {here address : Address} {name : String} {names rest : List String} {path resolved : Path}
  {entry : Entry}

/-! ## Names that a disk can hold -/

/-- Whether an entry may have a name: it is not too long and has no null character. -/
def isStorable (name : String) : Bool :=
  decide (name.utf8ByteSize ≤ nameLimit) && !name.toList.contains '\x00'

/-- A file tree in which all entries have names that a disk can hold. -/
structure IsStorable (fs : FileSystem) : Prop extends fs.IsTree where
  storable : ∀ entry ∈ fs.entries, isStorable (entry.1.getLastD "") = true

instance (fs : FileSystem) : Decidable fs.IsStorable :=
  decidable_of_iff (fs.IsTree ∧ ∀ entry ∈ fs.entries, isStorable (entry.1.getLastD "") = true)
    ⟨fun ⟨tree, storable⟩ => ⟨tree, storable⟩, fun storable => ⟨storable.toIsTree, storable.storable⟩⟩

theorem isStorable_iff :
    isStorable name = true ↔ name.utf8ByteSize ≤ nameLimit ∧ '\x00' ∉ name.toList := by
  simp [isStorable]

theorem IsStorable.isStorable (stored : fs.IsStorable)
    (found : fs.find? (here ++ [name]) = some entry) : isStorable name = true := by
  simpa using stored.storable _ (mem_entries_of_find? (by simp) found)

theorem IsStorable.short (stored : fs.IsStorable)
    (found : fs.find? (here ++ [name]) = some entry) : name.utf8ByteSize ≤ nameLimit :=
  (isStorable_iff.mp (stored.isStorable found)).1

/-- All names down to an entry are such names. -/
theorem IsStorable.of_mem (stored : fs.IsStorable) (found : fs.find? address = some entry)
    (member : name ∈ address) : isName name = true ∧ FileSystem.isStorable name = true := by
  induction address using List.reverseRecOn generalizing entry with
  | nil => simp at member
  | append_singleton above final induction =>
      obtain ⟨locked, room⟩ := hasDirectory_iff.mp (stored.isHoused above final entry found)
      rcases List.mem_append.mp member with inside | ends
      · exact induction room inside
      · obtain rfl := List.mem_singleton.mp ends
        exact ⟨stored.isName found, stored.isStorable found⟩

/-- Names of directories lead down to the last of them. -/
theorem IsStorable.leads_below (stored : fs.IsStorable)
    (room : fs.hasDirectory (here ++ names) = true)
    (further : fs.Leads last links (here ++ names) rest address) :
    fs.Leads last links here (names ++ rest) address := by
  induction names generalizing here with
  | nil => simpa using further
  | cons name names induction =>
      rw [List.append_cons] at room further
      have inside := stored.isHoused.hasDirectory_of_prefix room
      obtain ⟨locked, found⟩ := hasDirectory_iff.mp inside
      exact .enter (stored.isName found) (stored.short found) inside (induction room further)

/-- The names of an address lead to it from the root. -/
theorem IsStorable.leads_self (stored : fs.IsStorable) (found : fs.find? address = some entry)
    (rests : ∀ target, entry = .link target → last = false) :
    fs.Leads last links [] address address := by
  rcases List.eq_nil_or_concat address with rfl | ⟨above, final, rfl⟩
  · exact .arrive
  · rw [List.concat_eq_append] at found ⊢
    refine stored.leads_below (stored.isHoused above final entry found) ?_
    refine leads_singleton (stored.isName found) (stored.short found) ?_
    intro target link
    exact rests target (Option.some.inj (found.symm.trans link))

theorem IsStorable.leadsTo_self (stored : fs.IsStorable) (found : fs.find? address = some entry)
    (unlinked : ∀ target, entry ≠ .link target) : fs.LeadsTo true ⟨.single, address⟩ address :=
  stored.leads_self found fun target link => (unlinked target link).elim

/-- Names that lead to an entry have no null character. -/
theorem IsStorable.not_mem_of_leads (stored : fs.IsStorable)
    (leads : fs.Leads last links here names address) (found : fs.find? address = some entry)
    (member : name ∈ names) : '\x00' ∉ name.toList := by
  have whole {here : Address} {name : String} {entry : Entry}
      (found : fs.find? (here ++ [name]) = some entry) : '\x00' ∉ name.toList :=
    (isStorable_iff.mp (stored.isStorable found)).2
  induction leads with
  | arrive => contradiction
  | up _ induction =>
      rcases List.mem_cons.mp member with rfl | member
      · decide
      · exact induction found member
  | stay _ induction =>
      rcases List.mem_cons.mp member with rfl | member
      · decide
      · exact induction found member
  | enter _ _ room _ induction =>
      obtain ⟨locked, there⟩ := hasDirectory_iff.mp room
      rcases List.mem_cons.mp member with rfl | member
      · exact whole there
      · exact induction found member
  | stop =>
      obtain rfl := List.mem_singleton.mp member
      exact whole found
  | jump _ _ there _ _ _ induction =>
      rcases List.mem_cons.mp member with rfl | member
      · exact whole there
      · exact induction found (List.mem_append_right _ member)

theorem IsStorable.hasNull_eq_false (stored : fs.IsStorable) (leads : fs.LeadsTo last path address)
    (found : fs.find? address = some entry) : hasNull path = false := by
  rw [hasNull, List.any_eq_false]
  intro name member
  simpa using stored.not_mem_of_leads leads found member

/-! ## One name after the other -/

/-- A name and those after it lead by way of what the name leads to. -/
theorem Leads.exists_middle (housed : fs.IsHoused)
    (leads : fs.Leads true links here (name :: rest) address)
    (room : fs.hasDirectory here = true) :
    ∃ middle fewer, fewer ≤ links ∧ fs.Leads true links here [name] middle ∧
      fs.Leads true fewer middle rest address ∧
      (rest = [] ∨ fs.hasDirectory middle = true) := by
  cases rest with
  | nil => exact ⟨address, links, Nat.le_refl _, leads, .arrive, .inl rfl⟩
  | cons second rest =>
      have split : fs.Leads true links here ([name] ++ (second :: rest)) address := leads
      obtain ⟨middle, fewer, bound, first, inside, further⟩ :=
        split.split_le housed room (List.cons_ne_nil second rest)
      exact ⟨middle, fewer, bound, first, further, .inr inside⟩

/-- The names of a target lead where the target does, without the dot at their end. -/
theorem Leads.of_namesOfTarget {target : String} (housed : fs.IsHoused)
    (leads : fs.Leads true links here (namesOfTarget target) address)
    (room : fs.hasDirectory here = true) :
    fs.Leads true links here (Path.parse target).parts address := by
  have undotted {names : List String} (leads : fs.Leads true links here (names ++ ["."]) address) :
      fs.Leads true links here names address := by
    obtain ⟨middle, fewer, -, first, -, further⟩ := leads.split_le housed room (by simp)
    generalize dot : ["."] = rest at further
    cases further with
    | stay arrives =>
        cases (List.cons.inj dot).2
        cases arrives
        exact first
    | arrive | up => simp at dot
    | enter named | stop named | jump named =>
        obtain ⟨stays, -⟩ := isName_iff.mp named
        exact (stays (List.cons.inj dot).1.symm).elim
  unfold namesOfTarget at leads
  split at leads
  · exact undotted leads
  · exact undotted leads
  · exact leads

/-- A link that can be followed leads where its target does, by one link less. -/
theorem Leads.of_link {target : String} (leads : fs.Leads true links here [name] address)
    (found : fs.find? (here ++ [name]) = some (.link target)) (named : isName name = true) :
    ∃ fewer, links = fewer + 1 ∧
      fs.Leads true fewer (targetStart here target) (namesOfTarget target) address := by
  obtain ⟨stay, up⟩ := isName_iff.mp named
  cases leads with
  | up => exact (up rfl).elim
  | stay => exact (stay rfl).elim
  | enter _ _ room => exact (ne_link_of_hasDirectory room target found).elim
  | stop _ _ _ rests => simpa using rests target found
  | jump _ _ there _ _ further =>
      cases there.symm.trans found
      exact ⟨_, rfl, by simpa using further⟩

/-! ## Links that were met -/

/-- Links that are resolved lead where they are said to. -/
def TellsTargets (fs : FileSystem) (seen : SeenLinks) : Prop :=
  ∀ here name path, seen.lookup ⟨.single, here ++ [name]⟩ = some (some path) →
    ∃ address links, path = ⟨.single, address⟩ ∧ fs.Leads true links here [name] address

/-- Links that are still being resolved need more than `links` links. -/
def Exceeds (fs : FileSystem) (links : Nat) (seen : SeenLinks) : Prop :=
  ∀ here name, seen.lookup ⟨.single, here ++ [name]⟩ = some none →
    ∀ address, ¬fs.Leads true links here [name] address

theorem path_inj {above : Address} {final : String}
    (same : Path.mk .single (above ++ [final]) = ⟨.single, here ++ [name]⟩) :
    above = here ∧ final = name := by
  obtain ⟨rfl, ends⟩ := List.append_inj' (Path.mk.inj same).2 rfl
  exact ⟨rfl, (List.cons.inj ends).1⟩

theorem TellsTargets.pending (tells : fs.TellsTargets seen) (path : Path) :
    fs.TellsTargets ((path, none) :: seen) := by
  intro above final target stored
  by_cases same : Path.mk .single (above ++ [final]) = path
  · simp [same] at stored
  · rw [List.lookup_cons, beq_false_of_ne same] at stored
    exact tells above final target stored

theorem TellsTargets.cons (tells : fs.TellsTargets seen)
    (leads : fs.Leads true links here [name] address) :
    fs.TellsTargets ((⟨.single, here ++ [name]⟩, some ⟨.single, address⟩) :: seen) := by
  intro above final target stored
  by_cases same : Path.mk .single (above ++ [final]) = ⟨.single, here ++ [name]⟩
  · obtain ⟨rfl, rfl⟩ := path_inj same
    simp only [List.lookup_cons_self, Option.some.injEq] at stored
    exact ⟨address, links, stored.symm, leads⟩
  · rw [List.lookup_cons, beq_false_of_ne same] at stored
    exact tells above final target stored

theorem exceeds_nil (fs : FileSystem) (links : Nat) : fs.Exceeds links [] := by
  simp [Exceeds]

theorem Exceeds.anti {fewer : Nat} {later : SeenLinks} (exceeds : fs.Exceeds links seen)
    (bound : fewer ≤ links)
    (pending : ∀ path, later.lookup path = some none → seen.lookup path = some none) :
    fs.Exceeds fewer later :=
  fun above final stored other leads =>
    exceeds above final (pending _ stored) other (leads.weaken bound)

/-- A link that needs more links than are left may be among those being resolved. -/
theorem Exceeds.cons (exceeds : fs.Exceeds links seen)
    (needs : ∀ address, ¬fs.Leads true links here [name] address) :
    fs.Exceeds links ((⟨.single, here ++ [name]⟩, none) :: seen) := by
  intro above final stored other leads
  by_cases same : Path.mk .single (above ++ [final]) = ⟨.single, here ++ [name]⟩
  · obtain ⟨rfl, rfl⟩ := path_inj same
    exact needs other leads
  · rw [List.lookup_cons, beq_false_of_ne same] at stored
    exact exceeds above final stored other leads

/-- Once a link is resolved it is no longer among those being resolved. -/
theorem lookup_of_resolved {later : SeenLinks} {next other : Path}
    (pending : ∀ path, later.lookup path = some none →
      ((next, none) :: seen : SeenLinks).lookup path = some none)
    (stored : ((next, some resolved) :: later : SeenLinks).lookup other = some none) :
    seen.lookup other = some none := by
  by_cases same : other = next
  · simp [same] at stored
  · rw [List.lookup_cons, beq_false_of_ne same] at stored
    have before := pending other stored
    rw [List.lookup_cons, beq_false_of_ne same] at before
    exact before

/-! ## Resolution of what leads somewhere -/

theorem Leads.unique_of_links {more : Nat} {second : Address}
    (one : fs.Leads last links here names address) (two : fs.Leads last more here names second) :
    address = second :=
  (one.weaken (Nat.le_max_left links more)).unique (two.weaken (Nat.le_max_right links more))

theorem not_mem_parts_parse (s : String) : "." ∉ (Path.parse s).parts := by
  simp [Path.parse]

/-- A name in a directory leads to itself when links are not followed. -/
theorem IsStorable.locate_child (stored : fs.IsStorable) (room : fs.hasDirectory here = true)
    (named : isName name = true) (short : name.utf8ByteSize ≤ nameLimit) :
    fs.locate false ⟨.single, here ++ [name]⟩ =
      .ok ⟨here ++ [name], fs.find? (here ++ [name])⟩ := by
  obtain ⟨locked, found⟩ := hasDirectory_iff.mp room
  have above := stored.leadsTo_self found nofun
  exact (above.extend room (by simp) (leads_singleton named short fun _ _ => rfl)).locate

theorem base_eq_targetStart (here : Address) (target : String) :
    (if (Path.parse target).isAbsolute then Path.mk .single [] else ⟨.single, here⟩) =
      ⟨.single, targetStart here target⟩ := by
  rw [targetStart]
  split <;> rfl

/-- A link that can be followed can be so by way of a target that does not meet it again. -/
theorem Leads.exists_least {target : String} (leads : fs.Leads true links here [name] address)
    (housed : fs.IsHoused) (room : fs.hasDirectory here = true)
    (found : fs.find? (here ++ [name]) = some (.link target)) (named : isName name = true) :
    ∃ fewer, fewer < links ∧
      fs.Leads true fewer (targetStart here target) (Path.parse target).parts address ∧
      ∀ other, ¬fs.Leads true fewer here [name] other := by
  classical
  have reachable : ∃ count, fs.Leads true count here [name] address := ⟨links, leads⟩
  obtain ⟨fewer, least, further⟩ := (Nat.find_spec reachable).of_link found named
  have bound : Nat.find reachable ≤ links := Nat.find_min' reachable leads
  refine ⟨fewer, by omega, further.of_namesOfTarget housed (hasDirectory_targetStart room target), ?_⟩
  intro other sooner
  obtain rfl := sooner.unique_of_links leads
  exact Nat.find_min reachable (by omega) sooner

/-- Names are resolved to an address, after which links lead where they are said to and no more of
them are being resolved. -/
def Resolves (fs : FileSystem) (fuel : Nat) (seen : SeenLinks) (here : Address)
    (names : List String) (address : Address) : Prop :=
  ∃ later, fs.resolveFrom fuel seen ⟨.single, here⟩ names = (⟨.single, address⟩, true, later) ∧
    fs.TellsTargets later ∧ ∀ path, later.lookup path = some none → seen.lookup path = some none

theorem Resolves.mono {before : SeenLinks} (resolves : fs.Resolves fuel seen here names address)
    (pending : ∀ path, seen.lookup path = some none → before.lookup path = some none) :
    ∃ later, fs.resolveFrom fuel seen ⟨.single, here⟩ names = (⟨.single, address⟩, true, later) ∧
      fs.TellsTargets later ∧
      ∀ path, later.lookup path = some none → before.lookup path = some none := by
  obtain ⟨later, resolves, tells, fewer⟩ := resolves
  exact ⟨later, resolves, tells, fun path stored => pending path (fewer path stored)⟩

/-- A name that is no link is passed. -/
theorem IsStorable.resolves_cons (stored : fs.IsStorable) (room : fs.hasDirectory here = true)
    (named : isName name = true) (short : name.utf8ByteSize ≤ nameLimit)
    (unlinked : ∀ target, fs.find? (here ++ [name]) ≠ some (.link target))
    (onward : fs.Resolves fuel seen (here ++ [name]) rest address) :
    fs.Resolves (fuel + 1) seen here (name :: rest) address := by
  rw [Resolves, resolveFrom.eq_4 _ _ _ _ _ _ (isName_iff.mp named).2]
  simp only [Path.child, stored.locate_child room named short]
  split
  · rename_i link
    simp only [Except.ok.injEq, Place.mk.injEq] at link
    exact (unlinked _ link.2).elim
  · exact onward

/-- A link that was met is not followed again. -/
theorem IsStorable.resolves_of_met {target : String} {middle : Address} (stored : fs.IsStorable)
    (room : fs.hasDirectory here = true) (named : isName name = true)
    (short : name.utf8ByteSize ≤ nameLimit)
    (found : fs.find? (here ++ [name]) = some (.link target))
    (met : seen.lookup ⟨.single, here ++ [name]⟩ = some (some ⟨.single, middle⟩))
    (onward : fs.Resolves fuel seen middle rest address) :
    fs.Resolves (fuel + 1) seen here (name :: rest) address := by
  rw [Resolves, resolveFrom.eq_4 _ _ _ _ _ _ (isName_iff.mp named).2]
  simp only [Path.child, stored.locate_child room named short, found, met]
  exact onward

/-- A link that was not met is resolved by way of its target. -/
theorem IsStorable.resolves_of_target {target : String} {middle : Address} (stored : fs.IsStorable)
    (room : fs.hasDirectory here = true) (named : isName name = true)
    (short : name.utf8ByteSize ≤ nameLimit)
    (found : fs.find? (here ++ [name]) = some (.link target))
    (unmet : seen.lookup ⟨.single, here ++ [name]⟩ = none)
    (first : fs.Leads true links here [name] middle)
    (reached : fs.Resolves fuel ((⟨.single, here ++ [name]⟩, none) :: seen)
      (targetStart here target) (Path.parse target).parts middle)
    (onward : ∀ later, fs.TellsTargets later →
      (∀ path, later.lookup path = some none → seen.lookup path = some none) →
      fs.Resolves fuel later middle rest address) :
    fs.Resolves (fuel + 1) seen here (name :: rest) address := by
  obtain ⟨later, resolves, tells, pending⟩ := reached
  have fewer : ∀ path,
      ((⟨.single, here ++ [name]⟩, some ⟨.single, middle⟩) :: later : SeenLinks).lookup path =
        some none → seen.lookup path = some none :=
    fun _ stored => lookup_of_resolved pending stored
  rw [Resolves, resolveFrom.eq_4 _ _ _ _ _ _ (isName_iff.mp named).2]
  simp only [Path.child, stored.locate_child room named short, found, unmet, base_eq_targetStart,
    resolves, if_true]
  exact (onward _ (tells.cons first) fewer).mono fewer

/-- Names that lead somewhere are resolved to where they lead. -/
theorem resolves_of_leads (stored : fs.IsStorable)
    (leads : fs.Leads true links here names address)
    (room : names = [] ∨ fs.hasDirectory here = true) (straight : "." ∉ names)
    (tells : fs.TellsTargets seen) (exceeds : fs.Exceeds links seen)
    (enough : names.length + links * (fs.longestTarget + 1) + 1 ≤ fuel) :
    fs.Resolves fuel seen here names address := by
  induction fuel generalizing links seen here names address with
  | zero => omega
  | succ fuel induction =>
      have whole := leads
      cases leads with
      | arrive => exact ⟨seen, rfl, tells, fun _ pending => pending⟩
      | up further =>
          have inside := room.resolve_left (List.cons_ne_nil _ _)
          rw [Resolves, resolveFrom]
          exact induction further (.inr (stored.isHoused.dropLast inside))
            (fun dot => straight (List.mem_cons_of_mem _ dot)) tells exceeds
            (by simp only [List.length_cons] at enough; omega)
      | stay => exact (straight List.mem_cons_self).elim
      | enter named short entered further =>
          have inside := room.resolve_left (List.cons_ne_nil _ _)
          refine stored.resolves_cons inside named short (ne_link_of_hasDirectory entered) ?_
          exact induction further (.inr entered)
            (fun dot => straight (List.mem_cons_of_mem _ dot)) tells exceeds
            (by simp only [List.length_cons] at enough; omega)
      | stop named short outside rests =>
          have inside := room.resolve_left (List.cons_ne_nil _ _)
          refine stored.resolves_cons inside named short (by simpa using rests) ?_
          exact induction .arrive (.inl rfl) List.not_mem_nil tells exceeds
            (by simp only [List.length_cons, List.length_nil] at enough ⊢; omega)
      | @jump links here name target rest address named short found filled followed further =>
          have inside := room.resolve_left (List.cons_ne_nil _ _)
          simp only [List.length_cons] at enough
          obtain ⟨middle, remaining, bound, first, further, ends⟩ :=
            whole.exists_middle stored.isHoused inside
          have onward (later : SeenLinks) (tells : fs.TellsTargets later)
              (pending : ∀ path, later.lookup path = some none → seen.lookup path = some none) :
              fs.Resolves fuel later middle rest address := by
            have spent := Nat.mul_le_mul_right (fs.longestTarget + 1) bound
            exact induction further ends (fun dot => straight (List.mem_cons_of_mem _ dot)) tells
              (exceeds.anti bound pending) (by omega)
          cases met : seen.lookup ⟨.single, here ++ [name]⟩ with
          | some known =>
              cases known with
              | none => exact (exceeds here name met middle first).elim
              | some resolved =>
                  obtain ⟨other, count, rfl, leadsOther⟩ := tells here name resolved met
                  obtain rfl := leadsOther.unique_of_links first
                  exact stored.resolves_of_met inside named short found met
                    (onward seen tells fun _ pending => pending)
          | none =>
              -- The target does not need the link again, so the link may be marked on the way.
              obtain ⟨fewer, less, leadsTarget, needs⟩ :=
                first.exists_least stored.isHoused inside found named
              have spent := Nat.mul_le_mul_right (fs.longestTarget + 1) (Nat.succ_le_of_lt less)
              have fits := (length_parts_parse_le target).trans (length_le_longestTarget found)
              rw [Nat.succ_mul] at spent
              have marked := (exceeds.anti less.le fun _ pending => pending).cons needs
              exact stored.resolves_of_target inside named short found met first
                (induction leadsTarget (.inr (hasDirectory_targetStart inside target))
                  (not_mem_parts_parse target) (tells.pending _) marked (by omega)) onward

theorem collapse_of_not_mem (straight : ".." ∉ path.parts) : collapse path = path := by
  obtain ⟨root, parts⟩ := path
  have kept : ∀ (parts done : List String), ".." ∉ parts →
      parts.foldl (fun parts part => if part == ".." then parts.dropLast else parts ++ [part])
        done = done ++ parts := by
    intro parts
    induction parts with
    | nil => simp
    | cons part parts induction =>
        intro done straight
        rw [List.mem_cons, not_or] at straight
        have other : (part == "..") = false := beq_false_of_ne (Ne.symm straight.1)
        rw [List.foldl_cons, other, if_neg Bool.false_ne_true, induction _ straight.2]
        simp
  simpa [collapse] using kept parts [] straight

/-- A path to a file or a directory is resolved to the names that lead there from the root. -/
theorem IsStorable.resolve_eq (stored : fs.IsStorable) (leads : fs.LeadsTo true path address)
    (found : fs.find? address = some entry) (unlinked : ∀ target, entry ≠ .link target)
    (straight : "." ∉ path.parts) : fs.resolve path = .ok ⟨.single, address⟩ := by
  have fromRoot : fs.Leads true linkLimit [] (fs.absolute path).parts address := by
    rw [LeadsTo, startOf] at leads
    rw [absolute, Path.join]
    split at leads
    · rename_i whole
      rw [if_pos whole]
      exact leads
    · rename_i relative
      rw [if_neg relative]
      exact stored.leads_below stored.started leads
  have dotless : "." ∉ (fs.absolute path).parts := by
    rw [absolute, Path.join]
    split
    · exact straight
    · obtain ⟨locked, there⟩ := hasDirectory_iff.mp stored.started
      intro dot
      rcases List.mem_append.mp dot with above | below
      · simpa [isName] using (stored.of_mem there above).1
      · exact straight below
  have direct := stored.leadsTo_self found unlinked
  have named : ".." ∉ address := by
    intro up
    simpa [isName] using (stored.of_mem found up).1
  have enough : (fs.absolute path).parts.length + linkLimit * (fs.longestTarget + 1) + 1 ≤
      fs.stepLimit path + (fs.absolute path).parts.length * (fs.entries.length + 1) + 1 := by
    have room : (fs.absolute path).parts.length ≤
        (fs.absolute path).parts.length * (fs.entries.length + 1) :=
      Nat.le_mul_of_pos_right _ (Nat.succ_pos _)
    rw [stepLimit_eq, Nat.add_mul]
    omega
  obtain ⟨later, resolves, -, -⟩ := resolves_of_leads stored fromRoot (.inr rfl) dotless
    (fun _ _ _ met => by simp at met) (exceeds_nil fs linkLimit) enough
  rw [resolve, stored.hasNull_eq_false leads found, if_neg Bool.false_ne_true]
  have kept : collapse ⟨.single, address⟩ = ⟨.single, address⟩ := collapse_of_not_mem named
  simp only [resolves, kept, direct.locate]

/-! ## What a path to an entry gives -/

theorem IsStorable.isDirectory (stored : fs.IsStorable) (leads : fs.LeadsTo true path address)
    (found : fs.find? address = some entry) :
    fs.isDirectory path = .ok (fs.hasDirectory address) := by
  have there : fs.target? path = .ok (some entry) :=
    target?_eq_ok_some_iff.mpr ⟨stored.hasNull_eq_false leads found, address, leads, found⟩
  rw [FileSystem.isDirectory, there, hasDirectory, found]
  cases entry <;> rfl

theorem IsStorable.pathExists (stored : fs.IsStorable) (leads : fs.LeadsTo true path address)
    (found : fs.find? address = some entry) : fs.pathExists path = .ok true := by
  refine pathExists_eq_ok_true_iff.mpr ⟨stored.hasNull_eq_false leads found, address, leads, ?_⟩
  simp [found]

theorem IsStorable.read {bytes : List UInt8} {locked : Bool} (stored : fs.IsStorable)
    (leads : fs.LeadsTo true path address) (found : fs.find? address = some (.file bytes locked)) :
    fs.read path = if locked then .error (.fault .denied path) else .ok bytes := by
  rw [FileSystem.read, stored.hasNull_eq_false leads found, leads.locate, found]
  cases locked <;> rfl

end Baseline.FileSystem
