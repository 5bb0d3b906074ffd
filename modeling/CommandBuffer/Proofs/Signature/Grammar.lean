import CommandBuffer.Proofs.Pairing
import CommandBuffer.Proofs.SnakeForm
import CommandBuffer.Proofs.Text.Cutting
import CommandBuffer.Signature.File

/-! # The grammar of signature files

What a signature file may hold, said without its reader: how a type, a parameter and a declaration
are written, and what they mean once their names are looked up in a registry.

| form | written as |
|---|---|
| type | `[const] Base [<Name>] {*}`, blanks allowed in front of brackets and stars |
| parameter, head of a declaration | a type and a name |
| parameters | nothing, `void`, or parameters with commas between them |
| declaration | a head, parameters in parentheses, and perhaps a semicolon |
-/

namespace CommandBuffer.SignatureFile
open Text Pairing

/-- A type as it is written, its names not looked up. -/
structure TypeForm where
  isConst : Bool := false
  base : String
  /-- The name in angle brackets. -/
  qualifier : Option String := none
  depth : Nat := 0
  deriving DecidableEq, Repr

/-- A type and a name behind it: a parameter, or the head of a declaration. -/
structure NamedForm where
  type : TypeForm
  name : String
  deriving DecidableEq, Repr

structure DeclarationForm where
  head : NamedForm
  params : List NamedForm
  deriving DecidableEq, Repr

/-! ## Writing -/

/-- A letter or digit of ASCII, or an underscore. -/
def isNamePart (c : Char) : Bool := c.isAlphanum || c == '_'

/-- Identifiers joined by `::`. -/
def IsPath (text : List Char) : Prop :=
  ∃ names, names ≠ [] ∧ (∀ name ∈ names, Naming.isIdentifier name = true) ∧
    text = [':', ':'].intercalate names

def constWord : List Char := ['c', 'o', 'n', 's', 't']

/-- A blank follows a `const` at the start. -/
def StartsWithConst (text : List Char) : Prop :=
  ∃ c rest, isBlank c = true ∧ text = constWord ++ c :: rest

inductive WritesConst : Bool → List Char → Prop
  | absent : WritesConst false []
  | present {gap : List Char} : IsGap gap → gap ≠ [] → WritesConst true (constWord ++ gap)

inductive WritesQualifier : Option String → List Char → Prop
  | absent : WritesQualifier none []
  | present {gap before after : List Char} {name : String} :
      IsGap gap → IsGap before → IsGap after →
      WritesQualifier (some name) (gap ++ '<' :: (before ++ name.toList ++ after ++ ['>']))

inductive WritesStars : Nat → List Char → Prop
  | none : WritesStars 0 []
  | more {gap rest : List Char} {depth : Nat} :
      IsGap gap → WritesStars depth rest → WritesStars (depth + 1) (gap ++ '*' :: rest)

/-- The text is a way to write the type. What is left of it without the stars never starts with a
`const` that could be taken for the base. -/
def TypeForm.IsWritten (form : TypeForm) (text : List Char) : Prop :=
  ∃ const qualifier stars,
    WritesConst form.isConst const ∧ IsPath form.base.toList ∧
    WritesQualifier form.qualifier qualifier ∧ WritesStars form.depth stars ∧
    form.depth ≤ maxPointerDepth ∧
    (form.isConst = false → ¬ StartsWithConst (form.base.toList ++ qualifier)) ∧
    text = const ++ form.base.toList ++ qualifier ++ stars

/-- The name is all that the text has of name characters at its end. -/
def NamedForm.IsWritten (form : NamedForm) (text : List Char) : Prop :=
  ∃ type gap, form.type.IsWritten type ∧ IsGap gap ∧ Naming.isIdentifier form.name.toList = true ∧
    EndsOutside isNamePart (type ++ gap) ∧ text = type ++ gap ++ form.name.toList

/-- The text is a way to write the parameter, padded by blanks. -/
def NamedForm.IsPadded (form : NamedForm) (text : List Char) : Prop :=
  ∃ before inner after, IsGap before ∧ IsGap after ∧ form.IsWritten inner ∧
    text = before ++ inner ++ after

inductive WritesParams : List NamedForm → List Char → Prop
  | blank {text : List Char} : IsGap text → WritesParams [] text
  | void {before after : List Char} :
      IsGap before → IsGap after → WritesParams [] (before ++ ['v', 'o', 'i', 'd'] ++ after)
  | list {forms : List NamedForm} {texts : List (List Char)} :
      forms ≠ [] → List.Forall₂ NamedForm.IsPadded forms texts →
      WritesParams forms ([','].intercalate texts)

/-- What may stand behind the closing parenthesis. -/
def WritesFinish (finish : List Char) : Prop :=
  IsGap finish ∨ ∃ gap, IsGap gap ∧ finish = gap ++ [';']

def DeclarationForm.IsWritten (form : DeclarationForm) (text : List Char) : Prop :=
  ∃ head gap params finish, form.head.IsWritten head ∧ IsGap gap ∧
    WritesParams form.params params ∧ '(' ∉ params ∧ ')' ∉ params ∧
    WritesFinish finish ∧
    text = head ++ gap ++ '(' :: params ++ ')' :: finish

/-! ## Meaning -/

/-- What a type stands for in a registry. A name in brackets has to be that of a type with this
base; without one the base itself may be a name. -/
inductive TypeForm.Means (registry : Registry) : TypeForm → CType → Prop
  | plain {isConst : Bool} {base : String} {depth : Nat} :
      Means registry ⟨isConst, base, none, depth⟩ ⟨isConst, base, depth, registry.find? base⟩
  | qualified {isConst : Bool} {base name : String} {depth : Nat} {id : TypeId} {type : NamedType} :
      registry.find? name = some id → registry.get? id = some type → type.underlying = base →
      Means registry ⟨isConst, base, some name, depth⟩ ⟨isConst, base, depth, some id⟩

def NamedForm.Means (registry : Registry) (form : NamedForm) (param : Param) : Prop :=
  form.type.Means registry param.type ∧ param.name = form.name

def DeclarationForm.Means (registry : Registry) (form : DeclarationForm)
    (declaration : Declaration) : Prop :=
  form.head.type.Means registry declaration.returnType ∧ declaration.name = form.head.name ∧
    List.Forall₂ (NamedForm.Means registry) form.params declaration.params

/-- The name in brackets is that of a type with this base. -/
def TypeForm.IsRegistered (registry : Registry) (form : TypeForm) : Prop :=
  ∀ name, form.qualifier = some name → ∃ id type,
    registry.find? name = some id ∧ registry.get? id = some type ∧ type.underlying = form.base

structure DeclarationForm.IsRegistered (registry : Registry) (form : DeclarationForm) : Prop where
  head : form.head.type.IsRegistered registry
  params : ∀ param ∈ form.params, param.type.IsRegistered registry

/-! ## Names that can be read -/

/-- The name in brackets can be told from the padding around it. -/
def TypeForm.IsReadable (form : TypeForm) : Prop :=
  ∀ name, form.qualifier = some name → IsTrimmed name.toList

/-- No name in brackets is padded, or cut by what separates the parts of a declaration. -/
structure DeclarationForm.IsReadable (form : DeclarationForm) : Prop where
  head : form.head.type.IsReadable
  unopened : ∀ name, form.head.type.qualifier = some name → '(' ∉ name.toList
  params : ∀ param ∈ form.params, param.type.IsReadable
  unseparated : ∀ param ∈ form.params, ∀ name, param.type.qualifier = some name → ',' ∉ name.toList

/-! ## What has a meaning -/

section

variable {registry : Registry}

theorem TypeForm.exists_means_iff {form : TypeForm} :
    (∃ type, form.Means registry type) ↔ form.IsRegistered registry := by
  constructor
  · rintro ⟨type, hmeans⟩ name hname
    cases hmeans with
    | plain => cases hname
    | qualified hfind hget hbase =>
      cases hname
      exact ⟨_, _, hfind, hget, hbase⟩
  · intro h
    obtain ⟨isConst, base, qualifier, depth⟩ := form
    cases qualifier with
    | none => exact ⟨_, .plain⟩
    | some name =>
      obtain ⟨id, type, hfind, hget, hbase⟩ := h name rfl
      exact ⟨_, .qualified hfind hget hbase⟩

/-- A list of parameters has a meaning if each of them has. -/
theorem exists_params_mean {forms : List NamedForm}
    (h : ∀ form ∈ forms, form.type.IsRegistered registry) :
    ∃ params, List.Forall₂ (NamedForm.Means registry) forms params := by
  induction forms with
  | nil => exact ⟨[], .nil⟩
  | cons form forms ih =>
    obtain ⟨type, htype⟩ := TypeForm.exists_means_iff.mpr (h form List.mem_cons_self)
    obtain ⟨params, hparams⟩ := ih fun other hother => h other (List.mem_cons_of_mem _ hother)
    exact ⟨⟨type, form.name⟩ :: params, .cons ⟨htype, rfl⟩ hparams⟩

theorem DeclarationForm.Means.isRegistered {form : DeclarationForm} {declaration : Declaration}
    (h : form.Means registry declaration) : form.IsRegistered registry where
  head := TypeForm.exists_means_iff.mp ⟨_, h.1⟩
  params param hparam := by
    obtain ⟨-, -, hparams⟩ := h
    obtain ⟨value, -, hmeans, -⟩ := exists_of_mem_forall₂ hparams.flip hparam
    exact TypeForm.exists_means_iff.mp ⟨_, hmeans⟩

theorem DeclarationForm.IsRegistered.exists_means {form : DeclarationForm}
    (h : form.IsRegistered registry) (line : Nat) :
    ∃ declaration, form.Means registry declaration ∧ declaration.line = line := by
  obtain ⟨returnType, hreturn⟩ := TypeForm.exists_means_iff.mpr h.head
  obtain ⟨params, hparams⟩ := exists_params_mean h.params
  exact ⟨⟨form.head.name, returnType, params, line⟩, ⟨hreturn, rfl, hparams⟩, rfl⟩

end

/-! ## Characters of names and paths -/

theorem isNamePart_iff {c : Char} : isNamePart c = true ↔ IsNameChar c := by
  simp [isNamePart, IsNameChar]

theorem isNamePart_of_isIdentifier {name : List Char} (h : Naming.isIdentifier name = true) :
    ∀ c ∈ name, isNamePart c = true :=
  fun c hc => isNamePart_iff.mpr (Naming.isNameChar_of_isIdentifier h c hc)

theorem ne_nil_of_isIdentifier {name : List Char} (h : Naming.isIdentifier name = true) :
    name ≠ [] := by
  rintro rfl
  cases h

theorem isBlank_of_isNamePart {c : Char} (h : isNamePart c = true) : isBlank c = false := by
  rw [isNamePart_iff] at h
  rcases h with halnum | rfl
  · exact of_isAlphanum (fun c => isBlank c = false) (by decide) halnum
  · decide

theorem mem_intercalate {separator : List Char} {pieces : List (List Char)} {c : Char}
    (h : c ∈ separator.intercalate pieces) : c ∈ separator ∨ ∃ piece ∈ pieces, c ∈ piece := by
  induction pieces with
  | nil => simp at h
  | cons piece others ih =>
    by_cases hothers : others = []
    · simp_all
    · rw [List.intercalate_cons_of_ne_nil hothers, List.mem_append, List.mem_append] at h
      rcases h with (hpiece | hseparator) | hrest
      · exact .inr ⟨piece, by simp, hpiece⟩
      · exact .inl hseparator
      · exact (ih hrest).imp id fun ⟨other, hother, hc⟩ => ⟨other, by simp [hother], hc⟩

theorem mem_intercalate_of_mem {separator piece : List Char} {pieces : List (List Char)}
    (hpiece : piece ∈ pieces) {c : Char} (hc : c ∈ piece) : c ∈ separator.intercalate pieces := by
  induction pieces with
  | nil => cases hpiece
  | cons first others ih =>
    by_cases hothers : others = []
    · simp_all
    · rw [List.intercalate_cons_of_ne_nil hothers, List.mem_append, List.mem_append]
      rcases List.mem_cons.mp hpiece with rfl | hmem
      · exact .inl (.inl hc)
      · exact .inr (ih hmem)

namespace IsPath

variable {text : List Char}

theorem mem (h : IsPath text) : ∀ c ∈ text, isNamePart c = true ∨ c = ':' := by
  obtain ⟨names, -, hnames, rfl⟩ := h
  intro c hc
  rcases mem_intercalate hc with hseparator | ⟨name, hname, hc⟩
  · exact .inr (by simpa using hseparator)
  · exact .inl (isNamePart_of_isIdentifier (hnames name hname) c hc)

theorem of_isIdentifier (h : Naming.isIdentifier text = true) : IsPath text :=
  ⟨[text], by simp, by simpa using h, by simp⟩

theorem ne_nil (h : IsPath text) : text ≠ [] := by
  obtain ⟨names, hne, hnames, rfl⟩ := h
  obtain ⟨name, others, rfl⟩ := List.exists_cons_of_ne_nil hne
  have hname := ne_nil_of_isIdentifier (hnames name (by simp))
  by_cases hothers : others = []
  · simpa [hothers] using hname
  · simp [List.intercalate_cons_of_ne_nil hothers]

end IsPath

end CommandBuffer.SignatureFile
