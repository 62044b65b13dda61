import Baseline.Proofs.FileSystem.Making
import Baseline.Proofs.FileSystem.Plain

/-!
# Removing a directory and making it again

In a tree without links a directory can be removed by a path that still leads there once it is
empty and does not end in two dots. Then its path can be made again.
-/

namespace Baseline.FileSystem

variable {fs after upper : FileSystem} {last : Bool} {links fuel : Nat} {path : Path}
  {here address : Address} {name : String} {names : List String} {bytes : List UInt8}

/-! ## What changes of entries leave alone -/

/-- The current directory and the homes are the same, and nothing stands twice anywhere that did
not before. -/
structure Continues (fs after : FileSystem) : Prop where
  current : after.current = fs.current
  homes : after.homes = fs.homes
  distinct : (fs.entries.map Prod.fst).Nodup → (after.entries.map Prod.fst).Nodup

theorem Continues.refl (fs : FileSystem) : fs.Continues fs := ⟨rfl, rfl, id⟩

theorem Continues.trans {middle : FileSystem} (first : fs.Continues middle)
    (second : middle.Continues after) : fs.Continues after :=
  ⟨second.current.trans first.current, second.homes.trans first.homes,
    second.distinct ∘ first.distinct⟩

/-- Two file systems have the same entries, the same current directory and the same homes. -/
structure Coincides (fs other : FileSystem) : Prop where
  current : other.current = fs.current
  homes : other.homes = fs.homes
  same : ∀ address, other.find? address = fs.find? address

theorem continues_erase (fs : FileSystem) (address : Address) : fs.Continues (fs.erase address) :=
  ⟨rfl, rfl, fun distinct => distinct.sublist (List.filter_sublist.map _)⟩

theorem continues_put (fs : FileSystem) (address : Address) (entry : Entry) :
    fs.Continues (fs.put address entry) := by
  refine ⟨rfl, rfl, fun distinct => ?_⟩
  have fewer := (continues_erase fs address).distinct distinct
  rw [put, List.map_append, List.nodup_append]
  refine ⟨fewer, by simp, ?_⟩
  rintro other member _ single rfl
  obtain ⟨stored, kept, rfl⟩ := List.mem_map.mp member
  have differs := (List.mem_filter.mp kept).2
  simp only [List.map_cons, List.map_nil, List.mem_singleton] at single
  simp [single] at differs

theorem continues_makeDirectory (made : fs.makeDirectory path = .ok after) :
    fs.Continues after := by
  obtain ⟨address, -, -, rfl⟩ := makeDirectory_eq_ok_iff.mp made
  exact continues_put fs address _

theorem Makes.continues (makes : Makes path fs after) : fs.Continues after := by
  induction makes with
  | nothing => exact .refl fs
  | another _ _ made induction => exact induction.trans (continues_makeDirectory made)

/-- No links are made. -/
theorem Makes.unlinked (makes : Makes path fs after) (plain : fs.IsPlain) (address : Address)
    (target : String) : after.find? address ≠ some (.link target) := by
  rcases makes.find? address with same | made
  · rw [same]
    exact plain.unlinked address target
  · simp [made]

theorem continues_removeEach {empty : FileSystem → Address → FileSystem × Option Address}
    (each : ∀ (before : FileSystem) place, before.Continues (empty before place).1)
    (directory : Address)
    (names : List String) : fs.Continues (removeEach empty directory fs names).1 := by
  fun_induction removeEach empty directory fs names with
  | case1 => exact .refl _
  | case2 fs name _ child _ _ _ _ stopped =>
      have emptied := each fs child
      rw [stopped] at emptied
      exact emptied
  | case3 fs name _ child _ _ before passed induction =>
      have emptied := each fs child
      rw [passed] at emptied
      exact (emptied.trans (continues_erase _ child)).trans induction
  | case4 fs name _ child _ induction => exact (continues_erase fs child).trans induction

theorem continues_empty (fuel : Nat) (fs : FileSystem) (directory : Address) :
    fs.Continues (empty fuel fs directory).1 := by
  induction fuel generalizing fs directory with
  | zero => exact .refl fs
  | succ fuel induction =>
      rw [empty]
      split
      · exact .refl fs
      · exact continues_removeEach induction directory _

theorem continues_removeTree (fs : FileSystem) (path : Path) :
    fs.Continues (fs.removeTree path).1 := by
  rw [removeTree]
  split
  · exact .refl fs
  · exact .refl fs
  · rename_i address _ _
    have emptied := continues_empty (fs.depth + 1) fs address
    split
    · rename_i stopped
      rw [stopped] at emptied
      exact emptied
    · rename_i left passed
      rw [passed] at emptied
      split
      · exact emptied
      · split
        · exact emptied
        · exact emptied.trans (continues_erase left address)
  · exact .refl fs
  · split <;> exact .refl fs

theorem continues_write (written : fs.write path bytes = .ok after) : fs.Continues after := by
  obtain ⟨-, address, locked, -, -, rfl⟩ := write_eq_ok_iff.mp written
  exact continues_put fs address _

/-! ## Removal -/

theorem getLast?_of_removeTree (leads : fs.LeadsTo false path address)
    (room : fs.hasDirectory address = true) (removed : (fs.removeTree path).2 = none) :
    path.parts.getLast? ≠ some ".." := by
  obtain ⟨locked, found⟩ := hasDirectory_iff.mp room
  rw [removeTree] at removed
  simp only [leads.locate, found] at removed
  split at removed
  · contradiction
  · split at removed
    · contradiction
    · split at removed
      · contradiction
      · rename_i up
        simpa using up

/-- A directory is removed by a path that leads there also once it is empty, if each directory in it
can be read. -/
theorem removeTree_of_leads (housed : fs.IsHoused) (leads : fs.LeadsTo false path address)
    (room : fs.hasDirectory address = true) (free : ¬fs.IsBarred address)
    (again : (fs.eraseBelow address).LeadsTo false path address)
    (ends : path.parts.getLast? ≠ some "..") :
    fs.removeTree path = ((fs.eraseBelow address).erase address, none) := by
  obtain ⟨locked, found⟩ := hasDirectory_iff.mp room
  have empties := empties_empty_depth housed room
  rw [removeTree]
  simp only [leads.locate, found]
  generalize empty (fs.depth + 1) fs address = result at empties
  cases empties with
  | stopped barred => exact (free barred).elim
  | emptied =>
      simp only [again.locate]
      rw [if_neg (by simpa using ends)]

theorem embeds_removed (fs : FileSystem) (address : Address) :
    ((fs.eraseBelow address).erase address).Embeds fs := by
  intro other entry stood
  rw [find?_erase] at stood
  split at stood
  · contradiction
  · exact embeds_eraseBelow fs address other entry stood

/-! ## Making the directories of a path again -/

/-- What stands in a part of a tree at the place of a directory is a directory. -/
theorem Embeds.hasDirectory_of_some {entry : Entry} (embeds : fs.Embeds upper)
    (found : fs.find? address = some entry) (room : upper.hasDirectory address = true) :
    fs.hasDirectory address = true := by
  obtain ⟨stored, stands, same⟩ := embeds.exists_bare found
  obtain ⟨locked, there⟩ := hasDirectory_iff.mp room
  obtain rfl := Option.some.inj (there.symm.trans stands)
  cases entry with
  | directory lock => exact hasDirectory_iff.mpr ⟨lock, found⟩
  | file bytes lock => simp [Entry.bare] at same
  | link target => simp [Entry.bare] at same

/-- Names cannot be followed because there is nothing at a place on the way. -/
def Misses (fs : FileSystem) (links : Nat) (here : Address) (names : List String) : Prop :=
  ∀ fuel, names.length < fuel → fs.follow false links fuel here names = .error .missing

theorem Misses.up (misses : fs.Misses links here.dropLast names) :
    fs.Misses links here (".." :: names) := by
  intro fuel enough
  cases fuel with
  | zero => omega
  | succ fuel =>
      rw [follow]
      exact misses fuel (by simpa using enough)

theorem Misses.stay (misses : fs.Misses links here names) :
    fs.Misses links here ("." :: names) := by
  intro fuel enough
  cases fuel with
  | zero => omega
  | succ fuel =>
      rw [follow]
      exact misses fuel (by simpa using enough)

theorem Misses.enter (misses : fs.Misses links (here ++ [name]) names)
    (named : isName name = true) (short : name.utf8ByteSize ≤ nameLimit)
    (room : fs.hasDirectory (here ++ [name]) = true) : fs.Misses links here (name :: names) := by
  obtain ⟨stay, up⟩ := isName_iff.mp named
  obtain ⟨locked, found⟩ := hasDirectory_iff.mp room
  intro fuel enough
  cases fuel with
  | zero => omega
  | succ fuel =>
      rw [follow.eq_5 _ _ _ _ _ _ _ up stay]
      simp only [found, Nat.not_lt.mpr short, if_false]
      cases names with
      | nil => cases misses 1 (by simp)
      | cons next names => exact misses fuel (by simpa using enough)

theorem misses_of_absent {next : String} (named : isName name = true)
    (short : name.utf8ByteSize ≤ nameLimit) (absent : fs.find? (here ++ [name]) = none) :
    fs.Misses links here (name :: next :: names) := by
  obtain ⟨stay, up⟩ := isName_iff.mp named
  intro fuel enough
  cases fuel with
  | zero => omega
  | succ fuel =>
      rw [follow.eq_5 _ _ _ _ _ _ _ up stay]
      simp [absent, Nat.not_lt.mpr short]

/-- Names that lead somewhere in a tree lead there also in a part of it, or it lacks a directory on
the way. -/
theorem Leads.leads_or_misses (leads : upper.Leads last links here names address)
    (plain : upper.IsPlain) (embeds : fs.Embeds upper) :
    fs.Leads false links here names address ∨ fs.Misses links here names := by
  induction leads with
  | arrive => exact .inl .arrive
  | up _ induction => exact induction.imp .up .up
  | stay _ induction => exact induction.imp .stay .stay
  | @enter links here name rest address named short room further induction =>
      cases found : fs.find? (here ++ [name]) with
      | some entry =>
          have inside := embeds.hasDirectory_of_some found room
          exact induction.imp (.enter named short inside) (·.enter named short inside)
      | none =>
          -- A directory at the end of a path may be missing, but none on the way.
          cases rest with
          | nil =>
              cases further
              exact .inl (leads_singleton named short (by simp [found]))
          | cons next rest => exact .inr (misses_of_absent named short found)
  | stop named short =>
      refine .inl (leads_singleton named short fun target link => ?_)
      exact (plain.unlinked _ target (embeds.link link)).elim
  | jump _ _ link => exact (plain.unlinked _ _ link).elim

/-- Where a path leads to a directory of a tree, it leads there in a part of it as well, or the part
lacks a directory above. -/
theorem LeadsTo.makeDirectory_cases (leads : upper.LeadsTo true path address)
    (plain : upper.IsPlain) (embeds : fs.Embeds upper) (same : upper.current = fs.current) :
    fs.LeadsTo false path address ∨
      path.parts ≠ [] ∧ fs.makeDirectory path = .error .missing := by
  rw [LeadsTo, startOf_of_current same] at leads
  refine (Leads.leads_or_misses leads plain embeds).imp id fun missing => ⟨?_, ?_⟩
  · intro empty
    cases empty ▸ missing _ (Nat.lt_succ_self _)
  · have enough : path.parts.length < fs.stepLimit path := by
      rw [stepLimit_eq]
      omega
    rw [makeDirectory, FileSystem.locate, missing _ enough]

/-- Where a path leads to a directory of a tree, that directory stands in a part of it or can be
made there. -/
theorem LeadsTo.exists_made (leads : fs.LeadsTo false path address) (embeds : fs.Embeds upper)
    (room : upper.hasDirectory address = true) (whole : hasNull path = false) :
    (∃ made, fs.makeDirectory path = .ok made) ∨
      fs.makeDirectory path = .error .occupied ∧ fs.isDirectory path = .ok true := by
  cases found : fs.find? address with
  | none => exact .inl ⟨_, makeDirectory_eq_ok_iff.mpr ⟨address, leads, found, rfl⟩⟩
  | some entry =>
      have inside := embeds.hasDirectory_of_some found room
      obtain ⟨locked, there⟩ := hasDirectory_iff.mp inside
      have occupied : fs.makeDirectory path = .error .occupied := by
        rw [makeDirectory, leads.locate, there]
      exact .inr ⟨occupied, isDirectory_eq_ok_true_iff.mpr
        ⟨whole, address, leads.followed_of_hasDirectory inside, inside⟩⟩

/-- One more name leads on from the directory of a path. -/
theorem LeadsTo.extend_parent {middle : Address} (leads : fs.LeadsTo true path.parent middle)
    (room : fs.hasDirectory middle = true)
    (unlinked : ∀ address target, fs.find? address ≠ some (.link target))
    (ending : path.parts = path.parent.parts ++ [name])
    (short : isName name = true → name.utf8ByteSize ≤ nameLimit) :
    ∃ place, fs.LeadsTo false path place := by
  have whole : path = ⟨path.parent.root, path.parent.parts ++ [name]⟩ := by
    rw [← ending]
    rfl
  rw [whole]
  by_cases up : name = ".."
  · subst up
    exact ⟨_, leads.extend room (by simp) (.up .arrive)⟩
  · by_cases stay : name = "."
    · subst stay
      exact ⟨_, leads.extend room (by simp) (.stay .arrive)⟩
    · have named := isName_iff.mpr ⟨stay, up⟩
      refine ⟨_, leads.extend room (by simp) (leads_singleton named (short named) ?_)⟩
      exact fun target link => (unlinked _ target link).elim

/-- Where the path above one leads to a directory, so does the path itself as it does in the tree,
or it can be made there. -/
theorem LeadsTo.exists_made_of_parent (leads : upper.LeadsTo true path address)
    (plain : upper.IsPlain) (embeds : fs.Embeds upper) (same : upper.current = fs.current)
    (room : upper.hasDirectory address = true) (whole : hasNull path = false)
    (parts_ne : path.parts ≠ []) {middle : Address} (parent : fs.LeadsTo true path.parent middle)
    (inside : fs.hasDirectory middle = true) :
    (∃ made, fs.makeDirectory path = .ok made) ∨
      fs.makeDirectory path = .error .occupied ∧ fs.isDirectory path = .ok true := by
  obtain ⟨before, name, parts⟩ := (List.eq_nil_or_concat path.parts).resolve_left parts_ne
  rw [List.concat_eq_append] at parts
  have ending : path.parts = path.parent.parts ++ [name] := by
    rw [Path.parent, parts, List.dropLast_concat]
  have spelled : path = ⟨path.parent.root, path.parent.parts ++ [name]⟩ := by
    rw [← ending]
    rfl
  have short : isName name = true → name.utf8ByteSize ≤ nameLimit := by
    intro named
    rw [spelled] at leads
    obtain ⟨_, _, -, -, further⟩ := leads.split plain.housed (plain.begun _) (by simp)
    exact (further.singleton_cases named).1
  obtain ⟨place, here⟩ := parent.extend_parent inside
    (fun _ _ link => plain.unlinked _ _ (embeds.link link)) ending short
  have there := here.embed embeds same (.inl rfl)
  obtain rfl := (Leads.of_plain there plain true).unique leads
  exact here.exists_made embeds room whole

/-- Where a path leads to a directory of a tree without links, its directories can be made in each
part of the tree. -/
theorem makeDirectories_unfailed (housed : fs.IsHoused) (plain : upper.IsPlain)
    (embeds : fs.Embeds upper) (same : upper.current = fs.current)
    (begun : fs.hasDirectory (fs.startOf path) = true) (whole : hasNull path = false)
    (leads : upper.LeadsTo true path address) (room : upper.hasDirectory address = true)
    (enough : path.parts.length < fuel) : (fs.makeDirectories fuel path).2 = none := by
  induction fuel generalizing path address with
  | zero => omega
  | succ fuel induction =>
      rw [makeDirectories]
      rcases leads.makeDirectory_cases plain embeds same with here | ⟨parts_ne, missing⟩
      · rcases here.exists_made embeds room whole with ⟨made, making⟩ | ⟨occupied, there⟩
        · rw [making]
        · simp only [occupied, there]
      · -- A directory above is missing: those above are made first.
        have higher : path.parent.IsAbove path := .of_parent (.refl _)
        have shorter : path.parent.parts.length < fuel := by
          have := List.length_pos_of_ne_nil parts_ne
          simp only [Path.parent, List.length_dropLast]
          omega
        have begunParent : fs.hasDirectory (fs.startOf path.parent) = true := by
          rw [startOf_of_isAbove higher]
          exact begun
        have wholeParent : hasNull path.parent = false := by
          rw [hasNull, List.any_eq_false] at whole ⊢
          exact fun part member => whole part (List.mem_of_mem_dropLast member)
        obtain ⟨middle, leadsParent, inside⟩ :=
          leads.above plain.housed (plain.begun path) room higher
        have passed := induction begunParent wholeParent leadsParent inside shorter
        obtain ⟨here, parent, insideHere⟩ := leadsTo_of_makeDirectories housed begunParent passed
        have makes := (makes_makeDirectories fs fuel path.parent).1
        have grows := makes.grows housed begunParent
        have embedsMade := makes.embeds housed begunParent embeds plain.housed same
          (fun _ _ link => (plain.unlinked _ _ link).elim) leadsParent inside
        have last := leads.exists_made_of_parent plain embedsMade
          (same.trans grows.current.symm) room whole parts_ne parent insideHere
        rw [missing]
        simp only [List.isEmpty_iff, parts_ne, if_false]
        split
        · rename_i stopped
          rw [stopped] at passed
          contradiction
        · rename_i parents making
          rw [making] at last
          rcases last with ⟨made, again⟩ | ⟨occupied, there⟩
          · simp only [again]
          · simp only [occupied, there]

end Baseline.FileSystem
