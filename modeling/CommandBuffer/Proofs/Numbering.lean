import CommandBuffer.Proofs.Records

/-! # Numbering

The planner numbers the commands of a list of records without a gap. It asks for one command for
each transfer method of each record that has commands. If it succeeds, then the commands are those
that were asked for, in this order and with consecutive ids; and whether it succeeds does not depend
on the ids.
-/

namespace CommandBuffer

open Success Outcome

namespace Record

/-- Nothing that a command of the record needs is missing, and every one of them can be laid out. -/
structure IsPlannable (record : Record) : Prop where
  complete : record.planningError? = none
  plans : ∀ transfer ∈ record.transfers, ∃ id command, record.plan transfer id = .ok command

/-- The id of a command has no part in its layout. -/
theorem plan_renumbered {record : Record} {transfer : Transfer} {id : Nat} {command : Command}
    (h : record.plan transfer id = .ok command) (other : Nat) :
    record.plan transfer other = .ok { command with id := other } := by
  unfold plan at h
  obtain ⟨⟨arguments, fields⟩, harguments, h⟩ := bind_eq_ok.mp h
  obtain ⟨⟨count, withCount⟩, hcount, h⟩ := bind_eq_ok.mp h
  obtain ⟨⟨result, withResult⟩, hresult, h⟩ := bind_eq_ok.mp h
  obtain ⟨⟨clientId, list⟩, hclientId, h⟩ := bind_eq_ok.mp h
  cases pure_eq_ok.mp h
  unfold plan
  refine bind_eq_ok.mpr ⟨_, harguments, bind_eq_ok.mpr ⟨_, hcount, bind_eq_ok.mpr ⟨_, hresult, ?_⟩⟩⟩
  exact bind_eq_ok.mpr ⟨_, hclientId, rfl⟩

theorem name_of_plan {record : Record} {transfer : Transfer} {id : Nat} {command : Command}
    (h : record.plan transfer id = .ok command) :
    command.name = record.name ++ transfer.commandSuffix := by
  unfold plan at h
  obtain ⟨⟨arguments, fields⟩, -, h⟩ := bind_eq_ok.mp h
  obtain ⟨⟨count, withCount⟩, -, h⟩ := bind_eq_ok.mp h
  obtain ⟨⟨result, withResult⟩, -, h⟩ := bind_eq_ok.mp h
  obtain ⟨⟨clientId, list⟩, -, h⟩ := bind_eq_ok.mp h
  cases pure_eq_ok.mp h
  rfl

end Record

namespace Command

/-- What the planner is asked for: a record with commands, and one of its transfer methods. -/
def requests (records : List Record) : List (Record × Transfer) :=
  (records.filter Record.hasCommands).flatMap fun record => record.transfers.map (record, ·)

/-- The name of the command that is asked for. -/
def requestedName (request : Record × Transfer) : String :=
  request.1.name ++ request.2.commandSuffix

/-- The outcome of a request with an id. -/
def answer (numbered : (Record × Transfer) × Nat) : Except EmitError Command :=
  numbered.1.1.plan numbered.1.2 numbered.2

theorem mem_requests {records : List Record} {record : Record} {transfer : Transfer} :
    (record, transfer) ∈ requests records ↔
      record ∈ records ∧ record.hasCommands = true ∧ transfer ∈ record.transfers := by
  simp only [requests, List.mem_flatMap, List.mem_filter, List.mem_map, Prod.mk.injEq]
  constructor
  · rintro ⟨_, ⟨hrecord, hcommands⟩, _, htransfer, rfl, rfl⟩
    exact ⟨hrecord, hcommands, htransfer⟩
  · rintro ⟨hrecord, hcommands, htransfer⟩
    exact ⟨record, ⟨hrecord, hcommands⟩, transfer, htransfer, rfl, rfl⟩

theorem requests_append (first second : List Record) :
    requests (first ++ second) = requests first ++ requests second := by
  simp [requests]

/-- Complete records are planned request by request. -/
theorem outcomes_eq {records : List Record}
    (h : ∀ record ∈ records, record.hasCommands = true → record.planningError? = none) (id : Nat) :
    outcomes id records = ((requests records).zipIdx id).map answer := by
  induction records generalizing id with
  | nil => rfl
  | cons record rest ih =>
    have hrest := ih fun other hother => h other (List.mem_cons_of_mem _ hother)
    rw [outcomes]
    by_cases hcommands : record.hasCommands = true
    · have hown : requests (record :: rest)
          = record.transfers.map (record, ·) ++ requests rest := by
        simp [requests, hcommands]
      rw [if_neg (by simp [hcommands]), h record List.mem_cons_self hcommands]
      simp only [hrest, hown, List.zipIdx_append, List.zipIdx_map, List.length_map, List.map_append,
        List.map_map]
      rfl
    · have hnone : requests (record :: rest) = requests rest := by
        simp [requests, hcommands]
      rw [if_pos (by simp [hcommands]), hnone, hrest]

/-- A record that lacks something leaves an error. -/
theorem complete_of_outcomes {records : List Record} {id : Nat} {commands : List Command}
    (h : outcomes id records = commands.map .ok) :
    ∀ record ∈ records, record.hasCommands = true → record.planningError? = none := by
  induction records generalizing id commands with
  | nil => simp
  | cons record rest ih =>
    intro other hother hcommands
    rw [outcomes] at h
    split at h
    · rename_i hnone
      rcases List.mem_cons.mp hother with rfl | hrest
      · simp [hcommands] at hnone
      · exact ih h other hrest hcommands
    · split at h
      · cases commands <;> cases h
      · rename_i hcomplete
        obtain ⟨own, others, -, -, hothers⟩ := List.append_eq_map_iff.mp h
        rcases List.mem_cons.mp hother with rfl | hrest
        · exact hcomplete
        · exact ih hothers.symm other hrest hcommands

theorem planAll_eq_ok_iff {records : List Record} {base : Nat} {commands : List Command} :
    planAll records base = .ok commands ↔
      (∀ record ∈ records, record.hasCommands = true → record.planningError? = none) ∧
        ((requests records).zipIdx base).map answer = commands.map .ok := by
  rw [planAll, collect_eq_ok_iff]
  constructor
  · intro h
    have hcomplete := complete_of_outcomes h
    exact ⟨hcomplete, outcomes_eq hcomplete base ▸ h⟩
  · rintro ⟨hcomplete, h⟩
    rw [outcomes_eq hcomplete, h]

/-- Planning succeeds exactly if every record with commands is plannable. -/
theorem exists_planAll_iff {records : List Record} {base : Nat} :
    (∃ commands, planAll records base = .ok commands) ↔
      ∀ record ∈ records, record.hasCommands = true → record.IsPlannable := by
  constructor
  · rintro ⟨commands, h⟩ record hrecord hcommands
    obtain ⟨hcomplete, hplanned⟩ := planAll_eq_ok_iff.mp h
    refine ⟨hcomplete record hrecord hcommands, fun transfer htransfer => ?_⟩
    have hrequest := mem_requests.mpr ⟨hrecord, hcommands, htransfer⟩
    rw [← List.zipIdx_map_fst base (requests records)] at hrequest
    obtain ⟨⟨_, id⟩, hnumbered, rfl⟩ := List.mem_map.mp hrequest
    have hanswer := List.mem_map_of_mem (f := answer) hnumbered
    rw [hplanned] at hanswer
    obtain ⟨command, -, hcommand⟩ := List.mem_map.mp hanswer
    exact ⟨id, command, hcommand.symm⟩
  · intro h
    have hanswers : ∀ numbered ∈ (requests records).zipIdx base,
        ∃ command, answer numbered = .ok command := by
      rintro ⟨⟨record, transfer⟩, id⟩ hnumbered
      obtain ⟨hrecord, hcommands, htransfer⟩ :=
        mem_requests.mp (List.fst_mem_of_mem_zipIdx hnumbered)
      obtain ⟨other, command, hcommand⟩ := (h record hrecord hcommands).plans transfer htransfer
      exact ⟨_, Record.plan_renumbered hcommand id⟩
    obtain ⟨commands, hcommands⟩ := exists_of_forall_ok hanswers
    exact ⟨commands, planAll_eq_ok_iff.mpr
      ⟨fun record hrecord hhas => (h record hrecord hhas).complete, hcommands⟩⟩

section

variable {records : List Record} {base : Nat} {commands : List Command}

/-- The commands are those that were asked for, in order. -/
theorem requests_of_planAll (h : planAll records base = .ok commands) :
    commands.map (fun command => (command.record, command.transfer)) = requests records := by
  rw [map_eq_of_map_eq (planAll_eq_ok_iff.mp h).2 (g := Prod.fst), List.zipIdx_map_fst]
  rintro ⟨⟨record, transfer⟩, id⟩ command hcommand
  obtain ⟨hrecord, htransfer, -⟩ := Record.record_of_plan hcommand
  rw [hrecord, htransfer]

theorem names_of_planAll (h : planAll records base = .ok commands) :
    commands.map Command.name = (requests records).map requestedName := by
  rw [map_eq_of_map_eq (planAll_eq_ok_iff.mp h).2 (g := requestedName ∘ Prod.fst), ← List.map_map,
    List.zipIdx_map_fst]
  rintro ⟨⟨record, transfer⟩, id⟩ command hcommand
  exact Record.name_of_plan hcommand

/-- The ids start at the base and leave no gap. -/
theorem ids_of_planAll (h : planAll records base = .ok commands) :
    commands.map Command.id = List.range' base commands.length := by
  have hlength := congrArg List.length (requests_of_planAll h)
  rw [List.length_map] at hlength
  rw [map_eq_of_map_eq (planAll_eq_ok_iff.mp h).2 (g := Prod.snd), List.zipIdx_map_snd, hlength]
  rintro ⟨⟨record, transfer⟩, id⟩ command hcommand
  exact (Record.record_of_plan hcommand).2.2

/-- More records behind the others change no command of theirs. -/
theorem prefix_of_planAll {more : List Record} {grown : List Command}
    (h : planAll records base = .ok commands)
    (hgrown : planAll (records ++ more) base = .ok grown) : commands <+: grown := by
  have hown := (planAll_eq_ok_iff.mp h).2
  have hall := (planAll_eq_ok_iff.mp hgrown).2
  rw [requests_append, List.zipIdx_append, List.map_append, hown] at hall
  obtain ⟨first, others, rfl, hfirst, -⟩ := List.append_eq_map_iff.mp hall
  have hsame : first = commands := (List.map_inj_right fun _ _ => Except.ok.inj).mp hfirst
  exact ⟨others, by rw [hsame]⟩

end

end Command
end CommandBuffer
