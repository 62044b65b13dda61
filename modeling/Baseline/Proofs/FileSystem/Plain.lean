import Baseline.Proofs.FileSystem.Walk
import Baseline.Proofs.Text.Order
import Mathlib.Data.List.Nodup

/-!
# Trees without links

In a file tree without symbolic links an entry has one place, and a path with one more name leads to
what stands under that name in the directory of the path.
-/

namespace Baseline

/-- Whether an entry is a symbolic link. -/
def Entry.isLink : Entry → Bool
  | .link _ => true
  | _ => false

namespace FileSystem

variable {fs after : FileSystem} {last : Bool} {links fuel : Nat} {directory path : Path}
  {here address place : Address} {name : String} {names : List String}

/-! ## Trees without links -/

/-- A tree of directories and files: nothing stands anywhere twice, and there are no symbolic
links. -/
structure IsPlain (fs : FileSystem) : Prop where
  named : ∀ address name entry, fs.find? (address ++ [name]) = some entry → isName name = true
  housed : fs.IsHoused
  started : fs.hasDirectory fs.current = true
  unlinked : ∀ address target, fs.find? address ≠ some (.link target)
  distinct : (fs.entries.map Prod.fst).Nodup

theorem IsTree.isPlain (tree : fs.IsTree) (distinct : (fs.entries.map Prod.fst).Nodup)
    (unlinked : ∀ entry ∈ fs.entries, entry.2.isLink = false) : fs.IsPlain := by
  refine ⟨fun _ _ _ => tree.isName, tree.isHoused, tree.started, ?_, distinct⟩
  intro address target link
  have present : address ≠ [] := by
    rintro rfl
    simp at link
  have file := unlinked _ (mem_entries_of_find? present link)
  contradiction

theorem IsPlain.begun (plain : fs.IsPlain) (path : Path) :
    fs.hasDirectory (fs.startOf path) = true := by
  rw [startOf]
  split
  · rfl
  · exact plain.started

theorem IsPlain.isName (plain : fs.IsPlain) (member : name ∈ fs.names address) :
    isName name = true := by
  obtain ⟨entry, found⟩ := Option.ne_none_iff_exists'.mp (mem_names_iff_find?.mp member)
  exact plain.named _ _ _ found

theorem IsPlain.isLink (plain : fs.IsPlain) (path : Path) : fs.isLink path = false := by
  rw [Bool.eq_false_iff]
  intro linked
  obtain ⟨address, target, -, link⟩ := isLink_iff.mp linked
  exact plain.unlinked address target link

/-- The name under which a directory lists an address, if it is one below it. -/
def nameIn? (directory address : Address) : Option String :=
  if !address.isEmpty && address.dropLast == directory then address.getLast? else none

theorem names_eq (fs : FileSystem) (directory : Address) :
    fs.names directory =
      Text.sorted ((fs.entries.map Prod.fst).filterMap (nameIn? directory)) := by
  rw [names, children, List.filterMap_map]
  rfl

theorem eq_of_mem_nameIn? {directory : Address} (member : name ∈ nameIn? directory address) :
    address = directory ++ [name] := by
  unfold nameIn? at member
  split at member
  next inside =>
    simp only [Bool.and_eq_true, beq_iff_eq] at inside
    rw [← inside.2]
    exact (List.dropLast_append_getLast? name member).symm
  next => contradiction

/-- A directory lists a name once where nothing stands anywhere twice. -/
theorem nodup_names (distinct : (fs.entries.map Prod.fst).Nodup) (address : Address) :
    (fs.names address).Nodup := by
  rw [names_eq, Text.sorted, (List.mergeSort_perm _ _).nodup_iff]
  refine List.Nodup.filterMap ?_ distinct
  intro first second name one two
  rw [eq_of_mem_nameIn? one, eq_of_mem_nameIn? two]

theorem IsPlain.nodup_names (plain : fs.IsPlain) (address : Address) :
    (fs.names address).Nodup :=
  FileSystem.nodup_names plain.distinct address

/-- Where the same names are kept in two trees, they come in the same order. -/
theorem filter_names_eq (plain : fs.IsPlain) (plainAfter : after.IsPlain)
    {keep keepAfter : String → Bool}
    (same : ∀ name, isName name = true →
      (name ∈ after.names address ∧ keepAfter name = true ↔
        name ∈ fs.names address ∧ keep name = true)) :
    (after.names address).filter keepAfter = (fs.names address).filter keep := by
  have perm : ((after.names address).filter keepAfter).Perm ((fs.names address).filter keep) := by
    rw [List.perm_ext_iff_of_nodup ((plainAfter.nodup_names address).filter _)
      ((plain.nodup_names address).filter _)]
    intro name
    rw [List.mem_filter, List.mem_filter]
    constructor
    · exact fun kept => (same name (plainAfter.isName kept.1)).mp kept
    · exact fun kept => (same name (plain.isName kept.1)).mpr kept
  refine perm.eq_of_pairwise (fun a b _ _ => String.le_antisymm) ?_ ?_
  · exact (Text.pairwise_sorted _).filter _
  · exact (Text.pairwise_sorted _).filter _

/-- Without links it makes no difference whether one at the end is followed. -/
theorem Leads.of_plain (leads : fs.Leads last links here names address) (plain : fs.IsPlain)
    (other : Bool) : fs.Leads other links here names address := by
  induction leads with
  | arrive => exact .arrive
  | up _ induction => exact .up induction
  | stay _ induction => exact .stay induction
  | enter named short room _ induction => exact .enter named short room induction
  | stop named short outside =>
      exact .stop named short outside fun target link => (plain.unlinked _ target link).elim
  | jump _ _ link => exact (plain.unlinked _ _ link).elim

/-- Names lead to the same address where the same directories are, if there are no links. -/
theorem Leads.carry (leads : fs.Leads last links here names address) (plain : fs.IsPlain)
    (unlinked : ∀ address target, after.find? address ≠ some (.link target))
    (rooms : ∀ address, fs.hasDirectory address = true → after.hasDirectory address = true) :
    after.Leads last links here names address := by
  induction leads with
  | arrive => exact .arrive
  | up _ induction => exact .up induction
  | stay _ induction => exact .stay induction
  | enter named short room _ induction => exact .enter named short (rooms _ room) induction
  | stop named short =>
      exact leads_singleton named short fun target link => (unlinked _ target link).elim
  | jump _ _ link => exact (plain.unlinked _ _ link).elim

/-- Names without double dots lead further down, each by one step. -/
theorem Leads.address_eq (leads : fs.Leads last links here names address)
    (unlinked : ∀ address target, fs.find? address ≠ some (.link target))
    (straight : ".." ∉ names) : address = here ++ names.filter (· != ".") := by
  induction leads with
  | arrive => simp
  | up => simp at straight
  | stay _ induction =>
      rw [induction (fun up => straight (List.mem_cons_of_mem _ up))]
      simp
  | enter named _ _ _ induction =>
      rw [induction (fun up => straight (List.mem_cons_of_mem _ up))]
      simp [(isName_iff.mp named).1]
  | stop named => simp [(isName_iff.mp named).1]
  | jump _ _ link => exact (unlinked _ _ link).elim

/-- Names without double dots that lead to a directory lead there in each tree that has it. -/
theorem Leads.of_room (leads : after.Leads last links here names address)
    (unlinked : ∀ address target, after.find? address ≠ some (.link target))
    (straight : ".." ∉ names) (housed : fs.IsHoused) (room : fs.hasDirectory address = true) :
    fs.Leads last links here names address := by
  induction leads with
  | arrive => exact .arrive
  | up => simp at straight
  | stay _ induction =>
      exact .stay (induction (fun up => straight (List.mem_cons_of_mem _ up)) room)
  | enter named short _ further induction =>
      have rest := fun up => straight (List.mem_cons_of_mem _ up)
      have below := further.address_eq unlinked rest
      refine .enter named short (housed.hasDirectory_of_prefix (below ▸ room)) (induction rest room)
  | stop named short =>
      refine leads_singleton named short fun target link => ?_
      exact (ne_link_of_hasDirectory room target link).elim
  | jump _ _ link => exact (unlinked _ _ link).elim

/-- A path leads to a directory of a tree without links. -/
structure Reaches (fs : FileSystem) (path : Path) (address : Address) : Prop where
  plain : fs.IsPlain
  leads : fs.LeadsTo true path address
  room : fs.hasDirectory address = true

theorem Reaches.child_iff (reaches : fs.Reaches directory address) (named : isName name = true) :
    fs.LeadsTo true (directory.child name) place ↔
      name.utf8ByteSize ≤ nameLimit ∧ place = address ++ [name] := by
  constructor
  · intro leads
    obtain ⟨middle, fewer, first, -, second⟩ :=
      leads.split reaches.plain.housed (reaches.plain.begun directory) (by simp)
    obtain rfl := reaches.leads.unique first
    obtain ⟨short, same | ⟨-, target, link⟩⟩ := second.singleton_cases named
    · exact ⟨short, same⟩
    · exact (reaches.plain.unlinked _ target link).elim
  · rintro ⟨short, rfl⟩
    refine reaches.leads.extend reaches.room (by simp) (leads_singleton named short ?_)
    exact fun target link => (reaches.plain.unlinked _ target link).elim

theorem Reaches.leadsToDirectory_iff (reaches : fs.Reaches directory address)
    (named : isName name = true) :
    fs.leadsToDirectory (directory.child name) = true ↔
      hasNull (directory.child name) = false ∧ name.utf8ByteSize ≤ nameLimit ∧
        fs.hasDirectory (address ++ [name]) = true := by
  rw [FileSystem.leadsToDirectory_iff]
  simp only [reaches.child_iff named]
  constructor
  · rintro ⟨whole, _, ⟨short, rfl⟩, room⟩
    exact ⟨whole, short, room⟩
  · rintro ⟨whole, short, room⟩
    exact ⟨whole, _, ⟨short, rfl⟩, room⟩

theorem Reaches.leadsToFile_iff (reaches : fs.Reaches directory address)
    (named : isName name = true) :
    fs.leadsToFile (directory.child name) = true ↔
      hasNull (directory.child name) = false ∧ name.utf8ByteSize ≤ nameLimit ∧
        ∃ bytes locked, fs.find? (address ++ [name]) = some (.file bytes locked) := by
  rw [FileSystem.leadsToFile_iff]
  simp only [reaches.child_iff named]
  constructor
  · rintro ⟨whole, _, bytes, locked, ⟨short, rfl⟩, found⟩
    exact ⟨whole, short, bytes, locked, found⟩
  · rintro ⟨whole, short, bytes, locked, found⟩
    exact ⟨whole, _, bytes, locked, ⟨short, rfl⟩, found⟩

theorem Reaches.child (reaches : fs.Reaches directory address) (named : isName name = true)
    (found : fs.leadsToDirectory (directory.child name) = true) :
    fs.Reaches (directory.child name) (address ++ [name]) := by
  obtain ⟨-, short, room⟩ := (reaches.leadsToDirectory_iff named).mp found
  exact ⟨reaches.plain, (reaches.child_iff named).mpr ⟨short, rfl⟩, room⟩

/-- A walk through a directory that can be listed meets its files and then walks through the
directories in it. -/
theorem walkFrom_succ (plain : fs.IsPlain) (listed : fs.list directory = .ok names) :
    fs.walkFrom (fuel + 1) directory =
      (names.filter fun name => fs.leadsToDirectory (directory.child name)).foldl
        (fun walk name => walk.append (fs.walkFrom fuel (directory.child name)))
        (.ofFiles ((names.filter fun name => fs.leadsToFile (directory.child name)).map
          directory.child)) := by
  have followed : ∀ path ∈ names.map directory.child, fs.linkError? path = none := by
    intro path _
    rw [linkError?, plain.isLink]
  rw [walkFrom, listed]
  dsimp only
  rw [walkAlong_of_followed followed]
  simp only [plain.isLink, Bool.not_false, Bool.and_true, List.filter_map, List.foldl_map,
    Function.comp_def]

end FileSystem

end Baseline
