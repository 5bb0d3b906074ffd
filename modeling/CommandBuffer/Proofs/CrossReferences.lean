import CommandBuffer.Pipeline
import CommandBuffer.Proofs.Outcome
import Mathlib.Data.List.Induction
import Mathlib.Data.List.Nodup

/-! # References between records and overrides

The check of records and overrides has two parts, and neither stops the other. The first walks over
the records with the first owner of each method name; a record whose method name is taken is reported
and owns nothing, so that every later record of the name is reported with the same owner. The second
reports each override without a record. Records and overrides pass exactly if no two records share a
method name and every override names a record.
-/

namespace CommandBuffer

namespace Record

variable {records before : List Record} {first record : Record} {table : OverrideTable}

/-! ## Clashes of method names -/

/-- The earliest of the records with the method name. -/
def owner? (records : List Record) (method : String) : Option Record :=
  records.find? (·.methodName == method)

/-- Each record whose method name an earlier record has, behind the earliest record of that name. -/
def clashes (records : List Record) : List (Record × Record) :=
  records.zipIdx.filterMap fun entry =>
    (owner? (records.take entry.2) entry.1.methodName).map (·, entry.1)

/-- The record has the method name of an earlier one, and the first is the earliest of that name. -/
def IsClash (records : List Record) (first record : Record) : Prop :=
  ∃ before between after, records = before ++ first :: between ++ record :: after ∧
    first.methodName = record.methodName ∧
    ∀ other ∈ before, other.methodName ≠ record.methodName

/-- The clashes come in the order of the records, one for each record that clashes. -/
structure ListsClashes (records : List Record) (clashes : List (Record × Record)) : Prop where
  ordered : (clashes.map Prod.snd).Sublist records
  mem_iff : ∀ first record, (first, record) ∈ clashes ↔ IsClash records first record

theorem owner?_concat (records : List Record) (record : Record) (method : String) :
    owner? (records ++ [record]) method = (owner? records method).or
      (if record.methodName = method then some record else none) := by
  rw [owner?, List.find?_append, owner?]
  by_cases hmethod : record.methodName = method <;> simp [hmethod]

theorem owner?_eq_none_iff {method : String} :
    owner? records method = none ↔ method ∉ records.map methodName := by
  simp [owner?]

theorem owner?_eq_some_iff {method : String} :
    owner? records method = some first ↔ first.methodName = method ∧
      ∃ before after, records = before ++ first :: after ∧
        ∀ other ∈ before, other.methodName ≠ method := by
  simp [owner?, List.find?_eq_some_iff_append]

theorem clashes_concat (records : List Record) (record : Record) :
    clashes (records ++ [record]) = clashes records ++
      ((owner? records record.methodName).map (·, record)).toList := by
  rw [clashes, List.zipIdx_append, List.filterMap_append, clashes]
  congr 1
  · refine List.filterMap_congr fun entry hentry => ?_
    rw [List.take_append_of_le_length (Nat.le_of_lt (List.snd_lt_of_mem_zipIdx hentry))]
  · cases howner : owner? records record.methodName <;> simp [howner]

theorem clashes_eq_nil_iff : clashes records = [] ↔ (records.map methodName).Nodup := by
  induction records using List.reverseRecOn with
  | nil => simp [clashes]
  | append_singleton records record ih =>
    rw [clashes_concat, List.append_eq_nil_iff, ih, List.map_append, List.map_singleton,
      ← List.concat_eq_append, List.nodup_concat, ← owner?_eq_none_iff]
    simp [and_comm]

theorem mem_clashes_iff : (first, record) ∈ clashes records ↔ IsClash records first record := by
  simp only [clashes, List.mem_filterMap, Option.map_eq_some_iff, Prod.mk.injEq, owner?_eq_some_iff]
  constructor
  · rintro ⟨⟨record, position⟩, hentry, first, ⟨hmethod, before, between, htake, hbefore⟩, rfl, rfl⟩
    refine ⟨before, between, records.drop (position + 1), ?_, hmethod, hbefore⟩
    obtain ⟨hposition, hrecord⟩ := List.mem_zipIdx' hentry
    rw [← htake, hrecord, ← List.drop_eq_getElem_cons hposition, List.take_append_drop]
  · rintro ⟨before, between, after, rfl, hmethod, hbefore⟩
    refine ⟨(record, (before ++ first :: between).length), ?_, first,
      ⟨hmethod, before, between, List.take_left, hbefore⟩, rfl, rfl⟩
    simp [List.mk_mem_zipIdx_iff_getElem?]

theorem clashes_sublist (records : List Record) :
    ((clashes records).map Prod.snd).Sublist records := by
  induction records using List.reverseRecOn with
  | nil => exact .slnil
  | append_singleton records record ih =>
    rw [clashes_concat, List.map_append]
    refine ih.append ?_
    cases owner? records record.methodName <;> simp

theorem listsClashes (records : List Record) : ListsClashes records (clashes records) where
  ordered := clashes_sublist records
  mem_iff _ _ := mem_clashes_iff

/-! ## The walk over the records -/

/-- What is said about a clash. -/
def clashError (clash : Record × Record) : MergeError :=
  .duplicateMethodName clash.2.methodName clash.1.name clash.2.name

/-- What the walk keeps of the records before has the owner of each method name. -/
def KeepsOwners (earlier before : List Record) : Prop :=
  ∀ method, owner? earlier method = owner? before method

section

variable {earlier : List Record}

theorem KeepsOwners.clashing (h : KeepsOwners earlier before)
    (howner : owner? earlier record.methodName = some first) :
    KeepsOwners earlier (before ++ [record]) := by
  intro method
  rw [owner?_concat, ← h method]
  by_cases hmethod : record.methodName = method
  · rw [← hmethod, howner, Option.some_or]
  · rw [if_neg hmethod, Option.or_none]

theorem KeepsOwners.owning (h : KeepsOwners earlier before) (record : Record) :
    KeepsOwners (earlier ++ [record]) (before ++ [record]) := by
  intro method
  rw [owner?_concat, owner?_concat, h method]

/-- Behind other records, the walk reports the clashes that the rest adds. -/
theorem map_clashes_append (h : KeepsOwners earlier before) (rest : List Record) :
    (clashes (before ++ rest)).map clashError
      = (clashes before).map clashError ++ methodCollisions earlier rest := by
  induction rest generalizing earlier before with
  | nil => simp [methodCollisions]
  | cons record rest ih =>
    rw [List.append_cons, methodCollisions, ← owner?]
    cases howner : owner? earlier record.methodName with
    | some first =>
      rw [ih (h.clashing howner), clashes_concat, ← h, howner]
      simp [clashError]
    | none =>
      rw [ih (h.owning record), clashes_concat, ← h, howner]
      simp

end

/-- The walk reports every clash. -/
theorem methodCollisions_eq (records : List Record) :
    methodCollisions [] records = (clashes records).map clashError := by
  have hstart : KeepsOwners [] [] := fun _ => rfl
  exact (map_clashes_append hstart records).symm

theorem methodCollisions_eq_nil_iff :
    methodCollisions [] records = [] ↔ (records.map methodName).Nodup := by
  rw [methodCollisions_eq, List.map_eq_nil_iff, clashes_eq_nil_iff]

/-! ## Overrides without a record -/

theorem danglingOverrides_eq (records : List Record) (table : OverrideTable) :
    danglingOverrides records table
      = (table.entries.filter fun entry => entry.name ∉ records.map name).map
        fun entry => .unknownFunction entry.name := by
  refine congrArg (List.map _) (List.filter_congr fun entry _ => ?_)
  rw [Bool.eq_iff_iff]
  simp

theorem danglingOverrides_eq_nil_iff :
    danglingOverrides records table = [] ↔
      ∀ entry ∈ table.entries, ∃ record ∈ records, record.name = entry.name := by
  simp [danglingOverrides_eq, List.filter_eq_nil_iff]

/-! ## The check -/

/-- The check succeeds if it finds nothing. -/
theorem crossCheck_eq (records : List Record) (table : OverrideTable) :
    crossCheck records table =
      if methodCollisions [] records ++ danglingOverrides records table = [] then .ok ()
      else .error (methodCollisions [] records ++ danglingOverrides records table) := by
  unfold crossCheck
  split
  · rename_i hnone
    rw [if_pos hnone]
  · rename_i hfound
    rw [if_neg hfound]

theorem crossCheck_eq_ok_iff :
    crossCheck records table = .ok () ↔ (records.map methodName).Nodup ∧
      ∀ entry ∈ table.entries, ∃ record ∈ records, record.name = entry.name := by
  rw [← methodCollisions_eq_nil_iff, ← danglingOverrides_eq_nil_iff, ← List.append_eq_nil_iff,
    crossCheck_eq]
  split <;> simp_all

end Record

/-- The records of a protocol have passed the check with its overrides. -/
theorem Protocol.crossCheck_of_records {protocol : Protocol} {records : List Record}
    (h : protocol.records = .ok records) :
    Record.crossCheck records protocol.overrides = .ok () := by
  obtain ⟨unchecked, -, h⟩ := Success.bind_eq_ok.mp h
  obtain ⟨⟨⟩, hcheck, h⟩ := Success.bind_eq_ok.mp h
  rw [Success.pure_eq_ok] at h
  subst h
  exact Success.mapError_eq_ok.mp hcheck

namespace Record

/-- Records of different names pass with a table exactly if every override names a record and the
method names tell the records apart. Otherwise every clash is reported, in the order of the records
and with the earliest record of the method name, and then every override that names no record, in the
order of the table. -/
theorem crossCheck_exact (hnames : (records.map name).Nodup) (table : OverrideTable) :
    (crossCheck records table = .ok () ↔
      (∀ entry ∈ table.entries, ∃ record ∈ records, record.name = entry.name) ∧
      ∀ first ∈ records, ∀ second ∈ records,
        first.methodName = second.methodName → first = second) ∧
    ListsClashes records (clashes records) ∧
    (crossCheck records table ≠ .ok () → crossCheck records table = .error
      ((clashes records).map
          (fun (first, record) =>
            .duplicateMethodName record.methodName first.name record.name) ++
        (table.entries.filter fun entry => entry.name ∉ records.map name).map
          fun entry => .unknownFunction entry.name)) := by
  refine ⟨?_, listsClashes records, fun hrefused => ?_⟩
  · rw [crossCheck_eq_ok_iff, List.nodup_map_iff_inj_on (List.Nodup.of_map _ hnames), and_comm]
  · rw [crossCheck_eq] at hrefused ⊢
    split at hrefused
    · exact absurd rfl hrefused
    · rename_i hfound
      rw [if_neg hfound, methodCollisions_eq, danglingOverrides_eq]
      rfl

/-! ### Three functions of one method name -/

/-- A function without parameters. -/
def plainRecord (name : String) : Record :=
  .merge { name, returnType := .void, params := [], line := 1 } { name } [] .direct [.shm]

def storageRecords : List Record :=
  [plainRecord "TexStorage2D", plainRecord "Flush", plainRecord "TexStorage_2D",
    plainRecord "tex_storage_2d"]

def storageTable : OverrideTable := ⟨[{ name := "Flsh" }, { name := "Flush" }, { name := "flush" }]⟩

/-- The third function of the name is reported with the first one, like the second. -/
theorem crossCheck_exact_storage :
    (storageRecords.map name).Nodup ∧
    clashes storageRecords =
      [(plainRecord "TexStorage2D", plainRecord "TexStorage_2D"),
        (plainRecord "TexStorage2D", plainRecord "tex_storage_2d")] ∧
    ListsClashes storageRecords (clashes storageRecords) ∧
    crossCheck storageRecords storageTable = .error
      [.duplicateMethodName "tex_storage_2d" "TexStorage2D" "TexStorage_2D",
        .duplicateMethodName "tex_storage_2d" "TexStorage2D" "tex_storage_2d",
        .unknownFunction "Flsh", .unknownFunction "flush"] := by
  have hnames : (storageRecords.map name).Nodup := by decide
  have hclashes : clashes storageRecords =
      [(plainRecord "TexStorage2D", plainRecord "TexStorage_2D"),
        (plainRecord "TexStorage2D", plainRecord "tex_storage_2d")] := by decide +kernel
  obtain ⟨hpasses, hlists, hreports⟩ := crossCheck_exact hnames storageTable
  have hrefused : crossCheck storageRecords storageTable ≠ .ok () := fun hok =>
    absurd (hpasses.mp hok).1 (by decide)
  refine ⟨hnames, hclashes, hlists, (hreports hrefused).trans ?_⟩
  rw [hclashes]
  decide +kernel

end Record
end CommandBuffer
