import CommandBuffer.Artifact.Marshaling
import CommandBuffer.Proofs.CommandNames

/-! # Records with marshaling functions

A record is marshaled if it has commands and a client that does not write the function by hand. Its
arguments are then the declared parameters, its function writes the command of the preferred transfer
method, and no other function has the same name.
-/

namespace CommandBuffer

open Code Success

namespace Record

variable {registry : Registry} {declaration : Declaration} {directives : Override}
  {record : Record}

/-- A record with commands has a transfer method. -/
theorem transfers_ne_nil_of_build (h : build registry declaration directives = .ok record)
    (hcommands : record.hasCommands = true) : record.transfers ≠ [] := by
  obtain ⟨arguments, strategy, transfers, -, -, -, htransfers, rfl⟩ := exists_merge_of_build h
  have hstrategy : strategy ≠ .noCommand := by
    rintro rfl
    cases hcommands
  change transfers ≠ []
  unfold effectiveTransfers at htransfers
  rw [if_neg hstrategy] at htransfers
  split at htransfers
  · cases htransfers
    exact List.cons_ne_nil _ _
  · simp only at htransfers
    split at htransfers
    · cases htransfers
    · rename_i hrequested
      repeat' split at htransfers
      all_goals cases htransfers
      exact hrequested

/-- What a marshaling function is called with is what travels. -/
theorem declared_of_isMarshaled (h : build registry declaration directives = .ok record)
    (hmarshaled : record.isMarshaled = true) : record.declared = record.arguments := by
  obtain ⟨arguments, strategy, transfers, -, -, hobjections, -, rfl⟩ := exists_merge_of_build h
  simp only [isMarshaled, hasCommands, Record.strategy, merge, packingFor_strategy,
    Bool.and_eq_true] at hmarshaled
  change declaration.params = arguments
  by_contra hdiffer
  have hmismatch := (List.append_eq_nil_iff.mp hobjections).2
  rw [objectIf, if_pos ⟨hmarshaled.1.1, hmarshaled.1.2, hmarshaled.2, Ne.symm hdiffer⟩] at hmismatch
  cases hmismatch

end Record

/-- No two functions of a protocol share a name. -/
theorem Protocol.nodup_names {protocol : Protocol} {records : List Record}
    (h : protocol.records = .ok records) : (records.map Record.name).Nodup := by
  have hmethods := Protocol.nodup_methodNames h
  rw [show Record.methodName = Naming.methodName ∘ Record.name from rfl, ← List.map_map] at hmethods
  exact List.Nodup.of_map _ hmethods

namespace Command

/-- The first request of a record is the one for its preferred transfer method. -/
theorem find?_requests {records : List Record} {record : Record}
    (hnodup : (records.map Record.name).Nodup) (hrecord : record ∈ records)
    (hcommands : record.hasCommands = true) (htransfers : record.transfers ≠ []) :
    (requests records).find? (·.1.name == record.name)
      = record.preferredTransfer.map (record, ·) := by
  induction records with
  | nil => cases hrecord
  | cons other rest ih =>
    rw [List.map_cons, List.nodup_cons] at hnodup
    rw [← List.singleton_append, requests_append, List.find?_append]
    by_cases hsame : other = record
    · subst hsame
      obtain ⟨preferred, others, hpreferred⟩ := List.exists_cons_of_ne_nil htransfers
      have hfirst : requests [other] = (other, preferred) :: others.map (other, ·) := by
        simp [requests, hcommands, hpreferred]
      rw [hfirst, List.find?_cons_of_pos (by simp), Record.preferredTransfer, hpreferred]
      rfl
    · have hrest : record ∈ rest := (List.mem_cons.mp hrecord).resolve_left (Ne.symm hsame)
      have hname : other.name ≠ record.name := by
        intro hname
        exact hnodup.1 (hname ▸ List.mem_map_of_mem hrest)
      have hnone : (requests [other]).find? (·.1.name == record.name) = none := by
        rw [List.find?_eq_none]
        rintro ⟨requested, transfer⟩ hrequest
        rw [List.mem_singleton.mp (mem_requests.mp hrequest).1]
        simpa using hname
      rw [hnone, Option.none_or, ih hnodup.2 hrest]

end Command

/-- Of items with different keys, one has the key of an item. -/
theorem filter_key_eq_singleton {α β : Type} [DecidableEq β] {key : α → β} {items : List α}
    (hnodup : (items.map key).Nodup) {item : α} (hitem : item ∈ items) :
    items.filter (key · = key item) = [item] := by
  induction items with
  | nil => cases hitem
  | cons first rest ih =>
    rw [List.map_cons, List.nodup_cons] at hnodup
    rcases List.mem_cons.mp hitem with rfl | hrest
    · rw [List.filter_cons_of_pos (by simp), List.cons_inj_right, List.filter_eq_nil_iff]
      intro other hother hkey
      exact hnodup.1 (List.mem_map.mpr ⟨other, hother, by simpa using hkey⟩)
    · rw [List.filter_cons_of_neg, ih hnodup.2 hrest]
      simp only [decide_eq_true_eq]
      intro hkey
      exact hnodup.1 (hkey ▸ List.mem_map_of_mem hrest)

namespace Blueprint

variable {protocol : Protocol} {blueprint : Blueprint}

/-- Every record with commands has a command for its preferred transfer method, and this is the one
that clients use. -/
theorem exists_preferredCommand (hrecords : protocol.records = .ok blueprint.records)
    (hcommands : protocol.commands blueprint.records = .ok blueprint.commands) {record : Record}
    (hrecord : record ∈ blueprint.records) (hhas : record.hasCommands = true) :
    ∃ command ∈ blueprint.commands, blueprint.preferredCommand? record = some command ∧
      command.record = record ∧ record.preferredTransfer = some command.transfer := by
  obtain ⟨declaration, -, hbuild⟩ := Protocol.exists_build_of_records hrecords record hrecord
  have htransfers := Record.transfers_ne_nil_of_build hbuild hhas
  have hfind := Command.find?_requests (Protocol.nodup_names hrecords) hrecord hhas htransfers
  rw [← Command.requests_of_planAll (mapError_eq_ok.mp hcommands), List.find?_map] at hfind
  obtain ⟨preferred, others, hpreferred⟩ := List.exists_cons_of_ne_nil htransfers
  rw [Record.preferredTransfer, hpreferred, List.head?_cons, Option.map_some,
    Option.map_eq_some_iff] at hfind
  obtain ⟨command, hfound, hpair⟩ := hfind
  obtain ⟨hown, htransfer⟩ := Prod.mk.inj hpair
  refine ⟨command, List.mem_of_find?_eq_some hfound, ?_, hown, ?_⟩
  · rw [preferredCommand?, commandsFor, List.head?_filter]
    exact hfound
  · rw [Record.preferredTransfer, hpreferred, htransfer]
    rfl

end Blueprint

namespace Marshaling

variable {protocol : Protocol} {blueprint : Blueprint}

/-- A marshaled record with the command that its function writes. -/
structure IsEntry (blueprint : Blueprint) (record : Record) (command : Command) : Prop where
  record_mem : record ∈ blueprint.records
  isMarshaled : record.isMarshaled = true
  command_mem : command ∈ blueprint.commands
  record_eq : command.record = record
  transfer : record.preferredTransfer = some command.transfer

theorem hasCommands_of_isMarshaled {record : Record} (h : record.isMarshaled = true) :
    record.hasCommands = true := by
  rw [Record.isMarshaled, Bool.and_assoc, Bool.and_eq_true] at h
  exact h.1

section

variable (hrecords : protocol.records = .ok blueprint.records)
  (hcommands : protocol.commands blueprint.records = .ok blueprint.commands)

include hrecords hcommands

theorem isEntry_of_mem {record : Record} {command : Command}
    (h : (record, command) ∈ entries blueprint) : IsEntry blueprint record command := by
  obtain ⟨source, hsource, hpair⟩ := List.mem_filterMap.mp h
  obtain ⟨hrecord, hmarshaled⟩ := List.mem_filter.mp hsource
  obtain ⟨chosen, hmem, hpreferred, hown, htransfer⟩ :=
    blueprint.exists_preferredCommand hrecords hcommands hrecord
      (hasCommands_of_isMarshaled hmarshaled)
  rw [hpreferred, Option.map_some, Option.some.injEq] at hpair
  cases hpair
  exact ⟨hrecord, hmarshaled, hmem, hown, htransfer⟩

/-- Every marshaled record has one entry, in the order of the records. -/
theorem map_fst_entries :
    (entries blueprint).map Prod.fst = blueprint.records.filter Record.isMarshaled := by
  have hsome : ∀ record ∈ blueprint.records.filter Record.isMarshaled,
      (blueprint.preferredCommand? record).isSome = true := by
    intro record hmem
    obtain ⟨hrecord, hmarshaled⟩ := List.mem_filter.mp hmem
    obtain ⟨command, -, hpreferred, -⟩ := blueprint.exists_preferredCommand hrecords hcommands
      hrecord (hasCommands_of_isMarshaled hmarshaled)
    rw [hpreferred]
    rfl
  unfold entries
  generalize blueprint.records.filter Record.isMarshaled = marshaled at hsome
  induction marshaled with
  | nil => rfl
  | cons record rest ih =>
    rw [List.forall_mem_cons] at hsome
    obtain ⟨command, hcommand⟩ := Option.isSome_iff_exists.mp hsome.1
    rw [List.filterMap_cons, hcommand, Option.map_some, List.map_cons, ih hsome.2]

theorem map_name_functions : (functions blueprint).map (·.signature.name)
    = (blueprint.records.filter Record.isMarshaled).map Record.marshalName := by
  rw [← map_fst_entries hrecords hcommands, functions, List.map_map, List.map_map]
  rfl

omit hcommands in
theorem nodup_marshalNames : (blueprint.records.map Record.marshalName).Nodup := by
  have hmethods := Protocol.nodup_methodNames hrecords
  rw [show Record.marshalName = (fun method => .verbatim ("marshal_" ++ method)) ∘ Record.methodName
    from rfl, ← List.map_map]
  exact hmethods.map fun first second h => by simpa using h

theorem nodup_names_functions : ((functions blueprint).map (·.signature.name)).Nodup := by
  rw [map_name_functions hrecords hcommands]
  exact (nodup_marshalNames hrecords).sublist (List.filter_sublist.map _)

/-- The file holds no function of a record that is not marshaled. -/
theorem filter_eq_nil {record : Record} (hrecord : record ∈ blueprint.records)
    (hmarshaled : record.isMarshaled = false) :
    (functions blueprint).filter (·.signature.name = record.marshalName) = [] := by
  rw [List.filter_eq_nil_iff]
  intro function hfunction hname
  have hmem : function.signature.name ∈ (functions blueprint).map (·.signature.name) :=
    List.mem_map_of_mem hfunction
  rw [map_name_functions hrecords hcommands, of_decide_eq_true hname, List.mem_map] at hmem
  obtain ⟨other, hother, hsame⟩ := hmem
  obtain ⟨hotherRecord, hotherMarshaled⟩ := List.mem_filter.mp hother
  have heq := List.inj_on_of_nodup_map (nodup_marshalNames hrecords) hotherRecord hrecord hsame
  rw [heq, hmarshaled] at hotherMarshaled
  cases hotherMarshaled

/-- The file holds one function for each marshaled record, and it writes the command that clients
use. -/
theorem exists_function {record : Record} (hrecord : record ∈ blueprint.records)
    (hmarshaled : record.isMarshaled = true) :
    ∃ command, IsEntry blueprint record command ∧
      (functions blueprint).filter (·.signature.name = record.marshalName)
        = [function (blueprint.protocolType "Implementation") record command] := by
  have hentry : record ∈ (entries blueprint).map Prod.fst := by
    rw [map_fst_entries hrecords hcommands]
    exact List.mem_filter.mpr ⟨hrecord, hmarshaled⟩
  obtain ⟨⟨_, command⟩, hmem, rfl⟩ := List.mem_map.mp hentry
  exact ⟨command, isEntry_of_mem hrecords hcommands hmem,
    filter_key_eq_singleton (nodup_names_functions hrecords hcommands)
      (List.mem_map_of_mem (f := fun entry : Record × Command =>
        function (blueprint.protocolType "Implementation") entry.1 entry.2) hmem)⟩

end
end Marshaling
end CommandBuffer
