import CommandBuffer.Proofs.Signature.Lines

/-! # A line more in a signature file

What a line declares depends on its number in nothing but that number. So a line that is inserted
between others adds one declaration to theirs, and moves those behind it.
-/

namespace CommandBuffer
open Text Pairing

/-- The declaration without its place in the file. -/
def Declaration.unnumbered (declaration : Declaration) : Declaration := { declaration with line := 0 }

@[simp] theorem Declaration.name_unnumbered (declaration : Declaration) :
    declaration.unnumbered.name = declaration.name := rfl

namespace SignatureFile

variable {registry : Registry}

/-- What lines hold besides comments, without the lines that hold nothing. -/
def heldBy (lines : List (List Char)) : List (List Char) :=
  (lines.map lineContent).filter fun content => !content.isEmpty

/-- The trimmed text is the declaration, on its line. -/
structure Declares (registry : Registry) (content : List Char) (declaration : Declaration) : Prop where
  isTrimmed : IsTrimmed content
  reads : readDeclaration registry declaration.line content = .ok declaration

theorem map_fst_contents (text : String) :
    (contents text).map Prod.fst = heldBy (lines text.toList) := by
  have hfst : ∀ numbered : List (List Char × Nat), (contentsOf numbered).map Prod.fst
      = heldBy (numbered.map Prod.fst) := by
    intro numbered
    have hmap : (numbered.map Prod.fst).map lineContent
        = (numbered.map (Prod.map lineContent id)).map Prod.fst := by
      rw [List.map_map, List.map_map]
      rfl
    rw [contentsOf, heldBy, hmap]
    conv_rhs => rw [List.filter_map]
    rfl
  rw [contents, hfst, List.zipIdx_map_fst]

/-- A number changes nothing in a declaration but itself. -/
theorem readDeclaration_renumbered {content : List Char} {line : Nat} {declaration : Declaration}
    (hcontent : IsTrimmed content) (h : readDeclaration registry line content = .ok declaration)
    (other : Nat) :
    readDeclaration registry other content = .ok { declaration with line := other } := by
  obtain ⟨-, hform⟩ := (readDeclaration_eq_ok_iff hcontent).mp h
  exact (readDeclaration_eq_ok_iff hcontent).mpr ⟨rfl, hform⟩

theorem Declares.unnumbered_eq {content : List Char} {declaration other : Declaration}
    (h : Declares registry content declaration) (hother : Declares registry content other) :
    declaration.unnumbered = other.unnumbered := by
  have hsame := (readDeclaration_renumbered h.isTrimmed h.reads _).symm.trans hother.reads
  rw [← Except.ok.inj hsame]
  rfl

theorem declares_of_read {text : String} {declarations : List Declaration}
    (h : read registry text = .ok declarations) :
    List.Forall₂ (Declares registry) (heldBy (lines text.toList)) declarations := by
  have hread := (read_eq_ok_iff.mp h).1
  have hboth := (List.forall₂_and_left _ _).mpr ⟨fun _ => isTrimmed_of_mem_contents, hread⟩
  rw [← map_fst_contents, List.forall₂_map_left_iff]
  refine hboth.imp ?_
  rintro content declaration ⟨htrimmed, hread⟩
  have hline := ((readDeclaration_eq_ok_iff htrimmed).mp hread).1
  exact ⟨htrimmed, hline ▸ hread⟩

theorem heldBy_append (first second : List (List Char)) :
    heldBy (first ++ second) = heldBy first ++ heldBy second := by
  rw [heldBy, List.map_append, List.filter_append]
  rfl

theorem heldBy_cons {line : List Char} (h : lineContent line ≠ []) (rest : List (List Char)) :
    heldBy (line :: rest) = lineContent line :: heldBy rest := by
  simp [heldBy, h]

/-- A line that is inserted and holds something adds one declaration. -/
theorem exists_of_inserted {text larger : String} {before after : List (List Char)}
    {line : List Char} {declarations others : List Declaration}
    (hlines : lines text.toList = before ++ after)
    (hlarger : lines larger.toList = before ++ line :: after) (hline : lineContent line ≠ [])
    (h : read registry text = .ok declarations) (hothers : read registry larger = .ok others) :
    ∃ front declaration back, others = front ++ declaration :: back ∧
      Declares registry (lineContent line) declaration ∧
      declarations.map Declaration.unnumbered = (front ++ back).map Declaration.unnumbered := by
  have hsmall := declares_of_read h
  have hlarge := declares_of_read hothers
  rw [hlines, heldBy_append] at hsmall
  rw [hlarger, heldBy_append, heldBy_cons hline] at hlarge
  obtain ⟨front, inserted, rfl, hfront, hinserted⟩ := exists_append_of_forall₂ hlarge
  obtain ⟨declaration, back, hdeclares, hback, rfl⟩ := List.forall₂_cons_left_iff.mp hinserted
  refine ⟨front, declaration, back, rfl, hdeclares, ?_⟩
  have hothers : List.Forall₂ (Declares registry) (heldBy before ++ heldBy after) (front ++ back) :=
    List.rel_append hfront hback
  exact map_eq_of_forall₂ (fun _ _ _ hfirst hsecond => hfirst.unnumbered_eq hsecond) hsmall hothers

end SignatureFile
end CommandBuffer
