import OnDemand.Proofs.Wire.Accepts

/-!
# Templates

A template is a row of slots for bytes.  Some slots are blank and take any byte, the
others take one byte only.  The inputs that start with bytes for a template agree in
all slots that are not blank, and that is all they have in common.
-/

namespace OnDemand

/-- A row of slots, each blank or for one byte. -/
abbrev Template := List (Option UInt8)

namespace Template

/-- The template of bytes that are all known. -/
def exactly (bytes : Bytes) : Template := bytes.map some

/-- A number of blank slots. -/
def blank (count : Nat) : Template := List.replicate count none

/-- The slot at an offset is there and blank. -/
def IsBlank (template : Template) (offset : Nat) : Prop := template[offset]? = some none

/-- The input starts with a byte for each slot, and the rest follows. -/
def Starts : Template → Bytes → Bytes → Prop
  | [], input, rest => input = rest
  | slot :: template, input, rest =>
      ∃ byte left, input = byte :: left ∧ (∀ known ∈ slot, byte = known) ∧
        Starts template left rest

variable {template front back : Template} {input other rest : Bytes} {offset : Nat}

theorem starts_append :
    (front ++ back).Starts input rest ↔
      ∃ left, front.Starts input left ∧ back.Starts left rest := by
  induction front generalizing input with
  | nil => simp only [List.nil_append, Starts, exists_eq_left']
  | cons slot front ih =>
      simp only [List.cons_append, Starts, ih]
      constructor
      · intro ⟨byte, left, starts, fits, middle, first, second⟩
        exact ⟨middle, ⟨byte, left, starts, fits, first⟩, second⟩
      · intro ⟨middle, ⟨byte, left, starts, fits, first⟩, second⟩
        exact ⟨byte, left, starts, fits, middle, first, second⟩

theorem starts_exactly {bytes : Bytes} :
    (exactly bytes).Starts input rest ↔ input = bytes ++ rest := by
  induction bytes generalizing input with
  | nil => exact .rfl
  | cons known bytes ih =>
      simp only [exactly, List.map_cons, Starts, Option.mem_some_iff, List.cons_append]
      constructor
      · intro ⟨byte, left, starts, fits, follows⟩
        rw [starts, fits known rfl, ih.mp follows]
      · intro starts
        exact ⟨known, bytes ++ rest, starts, fun _ same => same, ih.mpr rfl⟩

theorem starts_blank {count : Nat} :
    (blank count).Starts input rest ↔ ∃ any : Bytes, any.length = count ∧ input = any ++ rest := by
  induction count generalizing input with
  | zero => simp [blank, Starts]
  | succ count ih =>
      simp only [blank, List.replicate_succ, Starts, Option.mem_def, reduceCtorEq, false_implies,
        implies_true, true_and]
      constructor
      · intro ⟨byte, left, starts, follows⟩
        obtain ⟨any, length, tail⟩ := ih.mp follows
        exact ⟨byte :: any, congrArg (· + 1) length, by rw [starts, tail]; rfl⟩
      · intro ⟨any, length, starts⟩
        cases any with
        | nil => cases length
        | cons byte any => exact ⟨byte, any ++ rest, starts, ih.mpr ⟨any, Nat.succ.inj length, rfl⟩⟩

/-- The bytes that fill a template can be told from the rest. -/
theorem starts_iff_exists :
    template.Starts input rest ↔ ∃ taken, template.Starts taken [] ∧ input = taken ++ rest := by
  induction template generalizing input with
  | nil => simp only [Starts, exists_eq_left, List.nil_append]
  | cons slot template ih =>
      simp only [Starts, ih]
      constructor
      · intro ⟨byte, left, starts, fits, taken, follows, split⟩
        exact ⟨byte :: taken, ⟨byte, taken, rfl, fits, follows⟩, by rw [starts, split]; rfl⟩
      · intro ⟨_, ⟨byte, taken, starts, fits, follows⟩, whole⟩
        exact ⟨byte, taken ++ rest, by rw [whole, starts]; rfl, fits, taken, follows, rfl⟩

/-- A blank byte is any byte. -/
theorem starts_blank_one :
    (blank 1).Starts input rest ↔ ∃ byte, input = byte :: rest := by
  rw [starts_blank]
  constructor
  · intro ⟨any, length, starts⟩
    match any with
    | [byte] => exact ⟨byte, starts⟩
  · intro ⟨byte, starts⟩
    exact ⟨[byte], rfl, starts⟩

/-- Two blank bytes are any word. -/
theorem starts_blank_two :
    (blank 2).Starts input rest ↔ ∃ value, input = Wire.word16 value ++ rest := by
  rw [starts_blank]
  constructor
  · intro ⟨any, length, starts⟩
    match any with
    | [a, b] => exact ⟨Wire.ofWord16 a b, by rw [starts, Wire.word16_ofWord16]⟩
  · intro ⟨value, starts⟩
    exact ⟨Wire.word16 value, rfl, starts⟩

theorem Starts.length_eq (starts : template.Starts input rest) :
    input.length = template.length + rest.length := by
  induction template generalizing input with
  | nil => rw [show input = rest from starts, List.length_nil, Nat.zero_add]
  | cons slot template ih =>
      obtain ⟨byte, left, rfl, _, follows⟩ := starts
      rw [List.length_cons, List.length_cons, ih follows]
      omega

/-- Bytes for a template are as many as its slots, and nothing but the blank slots
tells one such row of bytes from another. -/
theorem Starts.starts_iff (starts : template.Starts input []) :
    template.Starts other [] ↔
      other.length = input.length ∧
        ∀ offset, ¬ template.IsBlank offset → other[offset]? = input[offset]? := by
  induction template generalizing input other with
  | nil =>
      rw [show input = [] from starts, List.length_nil, List.length_eq_zero_iff]
      constructor
      · intro empty
        exact ⟨empty, fun _ _ => by rw [show other = [] from empty]⟩
      · exact fun same => same.1
  | cons slot template ih =>
      obtain ⟨byte, left, rfl, fits, follows⟩ := starts
      constructor
      · intro ⟨again, rest, starts, againFits, againFollows⟩
        obtain ⟨length, agree⟩ := (ih follows).mp againFollows
        refine ⟨by rw [starts, List.length_cons, List.length_cons, length], ?_⟩
        intro offset known
        rw [starts]
        cases offset with
        | zero =>
            cases slot with
            | none => exact absurd rfl known
            | some only => rw [againFits only rfl, fits only rfl]; rfl
        | succ offset => exact agree offset known
      · intro ⟨length, agree⟩
        cases other with
        | nil => cases length
        | cons again rest =>
            refine ⟨again, rest, rfl, ?_, (ih follows).mpr ⟨Nat.succ.inj length, ?_⟩⟩
            · intro only present
              have same := agree 0 (by rw [Option.mem_def.mp present]; nofun)
              rw [← fits only present]
              exact Option.some.inj same
            · exact fun offset known => agree (offset + 1) known

theorem isBlank_append :
    (front ++ back).IsBlank offset ↔
      front.IsBlank offset ∨ ∃ place, offset = front.length + place ∧ back.IsBlank place := by
  simp only [IsBlank]
  by_cases within : offset < front.length
  · rw [List.getElem?_append_left within]
    refine (or_iff_left ?_).symm
    intro ⟨place, beyond, _⟩
    omega
  · obtain ⟨place, rfl⟩ := Nat.exists_eq_add_of_le (Nat.le_of_not_lt within)
    rw [List.getElem?_append_right (Nat.le_add_right ..), Nat.add_sub_cancel_left,
      List.getElem?_eq_none (Nat.le_add_right ..)]
    simp only [reduceCtorEq, false_or, Nat.add_right_inj, exists_eq_left']

/-- A blank slot of templates in a row is a blank slot of one of them. -/
theorem isBlank_flatMap {α : Type} {write : α → Template} {values : List α} :
    Template.IsBlank (values.flatMap write) offset ↔
      ∃ before value after, values = before ++ value :: after ∧
        ∃ place, offset = (before.flatMap write).length + place ∧ (write value).IsBlank place := by
  induction values generalizing offset with
  | nil =>
      refine iff_of_false nofun ?_
      intro ⟨before, value, after, split, _⟩
      cases before <;> cases split
  | cons first values ih =>
      rw [List.flatMap_cons, isBlank_append]
      constructor
      · intro blank
        cases blank with
        | inl own => exact ⟨[], first, values, rfl, offset, (Nat.zero_add _).symm, own⟩
        | inr later =>
            obtain ⟨place, beyond, later⟩ := later
            obtain ⟨before, value, after, split, inner, within, own⟩ := ih.mp later
            refine ⟨first :: before, value, after, by rw [split]; rfl, inner, ?_, own⟩
            rw [beyond, within, List.flatMap_cons, List.length_append, Nat.add_assoc]
      · intro ⟨before, value, after, split, inner, within, own⟩
        cases before with
        | nil =>
            cases split
            rw [List.flatMap_nil, List.length_nil, Nat.zero_add] at within
            exact .inl (within ▸ own)
        | cons _ before =>
            cases split
            rw [List.flatMap_cons, List.length_append, Nat.add_assoc] at within
            exact .inr ⟨_, within, ih.mpr ⟨before, value, after, rfl, inner, rfl, own⟩⟩

theorem not_isBlank_exactly {bytes : Bytes} : ¬ (exactly bytes).IsBlank offset := by
  simp [IsBlank, exactly]

theorem isBlank_blank {count : Nat} : (blank count).IsBlank offset ↔ offset < count := by
  simp only [IsBlank, blank, List.getElem?_replicate]
  split <;> simp [*]

/-- Rows of known bytes in a row are known bytes. -/
theorem flatMap_exactly {α : Type} (write : α → Bytes) (values : List α) :
    values.flatMap (fun value => exactly (write value)) = exactly (values.flatMap write) := by
  simp only [exactly, List.map_flatMap]

@[simp] theorem length_exactly {bytes : Bytes} : (exactly bytes).length = bytes.length :=
  List.length_map _

@[simp] theorem length_blank {count : Nat} : (blank count).length = count :=
  List.length_replicate

end Template

/-- A reader of values with templates, repeated, reads values whose templates follow each
other. -/
theorem Reader.replicate_eq_ok_iff {α : Type} {reader : Reader α} {valid : α → Prop}
    {template : α → Template} {count : Nat} {values : List α} {input rest : Bytes}
    (each : ∀ {input value rest}, reader input = .ok (value, rest) ↔
      valid value ∧ (template value).Starts input rest) :
    Reader.replicate reader count input = .ok (values, rest) ↔
      values.length = count ∧ (∀ value ∈ values, valid value) ∧
        Template.Starts (values.flatMap template) input rest := by
  induction count generalizing input values rest with
  | zero =>
      rw [Reader.replicate, pure_eq_ok_iff]
      constructor
      · intro ⟨empty, same⟩
        subst empty
        exact ⟨rfl, nofun, same⟩
      · intro ⟨length, _, starts⟩
        cases List.length_eq_zero_iff.mp length
        exact ⟨rfl, starts⟩
  | succ count ih =>
      simp only [Reader.replicate, bind_eq_ok_iff, pure_eq_ok_iff, each, ih]
      constructor
      · intro ⟨value, left, ⟨good, starts⟩, others, last, ⟨length, allGood, follow⟩, same, done⟩
        subst same done
        refine ⟨congrArg (· + 1) length, List.forall_mem_cons.mpr ⟨good, allGood⟩, ?_⟩
        rw [List.flatMap_cons, Template.starts_append]
        exact ⟨left, starts, follow⟩
      · intro ⟨length, allGood, starts⟩
        cases values with
        | nil => cases length
        | cons value others =>
            rw [List.flatMap_cons, Template.starts_append] at starts
            obtain ⟨left, first, follow⟩ := starts
            obtain ⟨good, othersGood⟩ := List.forall_mem_cons.mp allGood
            exact ⟨value, left, ⟨good, first⟩, others, rest,
              ⟨Nat.succ.inj length, othersGood, follow⟩, rfl, rfl⟩

end OnDemand
