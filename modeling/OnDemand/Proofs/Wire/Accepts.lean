import OnDemand.Proofs.Wire.Reads

/-!
# What a reader accepts

A reader of a fixed field succeeds exactly on the inputs that start with the bytes of a
value, and its value is that one.  A sequence of readers succeeds exactly when each of
them does on what the one before it left.
-/

namespace OnDemand

namespace Wire

theorem word16_ofWord16 (a b : UInt8) : word16 (ofWord16 a b) = [a, b] := by
  have first := a.toNat_lt
  have second := b.toNat_lt
  have value : (ofWord16 a b).toNat = a.toNat * 256 + b.toNat :=
    UInt16.toNat_ofNat_of_lt' (by simp only [UInt16.size]; omega)
  simp only [word16, value, List.cons.injEq, and_true, ← UInt8.toNat_inj, UInt8.toNat_ofNat']
  omega

theorem word32_ofWord32 (a b c d : UInt8) : word32 (ofWord32 a b c d) = [a, b, c, d] := by
  have first := a.toNat_lt
  have second := b.toNat_lt
  have third := c.toNat_lt
  have fourth := d.toNat_lt
  have value : (ofWord32 a b c d).toNat =
      ((a.toNat * 256 + b.toNat) * 256 + c.toNat) * 256 + d.toNat :=
    UInt32.toNat_ofNat_of_lt' (by simp only [UInt32.size]; omega)
  simp only [word32, value, List.cons.injEq, and_true, ← UInt8.toNat_inj, UInt8.toNat_ofNat']
  omega

end Wire

namespace Reader

variable {α β : Type} {input rest : Bytes}

theorem bind_eq_ok_iff {reader : Reader α} {next : α → Reader β} {result : β} :
    (reader >>= next) input = .ok (result, rest) ↔
      ∃ value left, reader input = .ok (value, left) ∧ next value left = .ok (result, rest) := by
  have sequence : (reader >>= next) input = reader input >>= fun pair => next pair.1 pair.2 := rfl
  rw [sequence, OnDemand.bind_eq_ok_iff, Prod.exists]

theorem pure_eq_ok_iff {value result : α} :
    (pure value : Reader α) input = .ok (result, rest) ↔ value = result ∧ input = rest := by
  have outcome : (pure value : Reader α) input = .ok (value, input) := rfl
  rw [outcome, Except.ok.injEq, Prod.mk.injEq]

/-- An outcome that is known takes no bytes. -/
theorem lift_eq_ok_iff {outcome : Except WireError α} {value : α} :
    (liftM outcome : Reader α) input = .ok (value, rest) ↔ outcome = .ok value ∧ input = rest := by
  cases outcome with
  | error fault => exact iff_of_false nofun (fun both => nomatch both.1)
  | ok known =>
      have result : (liftM (Except.ok known : Except WireError α) : Reader α) input =
          .ok (known, input) := rfl
      rw [result, Except.ok.injEq, Except.ok.injEq, Prod.mk.injEq]

/-- A value that is refused ends the reading. -/
theorem refusing_eq_ok_iff {refused : Prop} [Decidable refused] {fault : WireError}
    {more : β → Reader α} {next : Reader α} {value : α} :
    (if refused then (throw fault : Reader β) >>= more else next) input = .ok (value, rest) ↔
      ¬ refused ∧ next input = .ok (value, rest) := by
  by_cases holds : refused
  · rw [if_pos holds]
    exact iff_of_false nofun (fun both => both.1 holds)
  · rw [if_neg holds]
    exact (and_iff_right holds).symm

theorem byte_eq_ok_iff {value : UInt8} :
    byte input = .ok (value, rest) ↔ input = value :: rest := by
  cases input with
  | nil => exact iff_of_false nofun nofun
  | cons first left => simp only [byte, Except.ok.injEq, Prod.mk.injEq, List.cons.injEq]

theorem word16_eq_ok_iff {value : UInt16} :
    word16 input = .ok (value, rest) ↔ input = Wire.word16 value ++ rest := by
  constructor
  · intro read
    match input with
    | [] => cases read
    | [_] => cases read
    | a :: b :: left =>
        cases read
        rw [Wire.word16_ofWord16]
        rfl
  · intro starts
    rw [starts]
    exact Reads.word16 value rest

theorem word32_eq_ok_iff {value : UInt32} :
    word32 input = .ok (value, rest) ↔ input = Wire.word32 value ++ rest := by
  constructor
  · intro read
    match input with
    | [] => cases read
    | [_] => cases read
    | [_, _] => cases read
    | [_, _, _] => cases read
    | a :: b :: c :: d :: left =>
        cases read
        rw [Wire.word32_ofWord32]
        rfl
  · intro starts
    rw [starts]
    exact Reads.word32 value rest

theorem bytes_eq_ok_iff {count : Nat} {value : Bytes} :
    bytes count input = .ok (value, rest) ↔ value.length = count ∧ input = value ++ rest := by
  constructor
  · intro read
    simp only [bytes] at read
    split at read
    · next enough =>
        cases read
        exact ⟨enough, (List.take_append_drop count input).symm⟩
    · cases read
  · rintro ⟨length, starts⟩
    rw [starts]
    exact Reads.bytes value length rest

theorem octets_eq_ok_iff {count : Nat} {value : Octets count} :
    octets count input = .ok (value, rest) ↔ input = value.val ++ rest := by
  constructor
  · intro read
    simp only [octets] at read
    split at read
    · cases read
      exact (List.take_append_drop count input).symm
    · cases read
  · intro starts
    rw [starts]
    exact Reads.octets value rest

theorem need_eq_ok_iff {count : Nat} {result : Unit} :
    need count input = .ok (result, rest) ↔ count ≤ input.length ∧ input = rest := by
  have enough : (input.take count).length = count ↔ count ≤ input.length := by
    rw [List.length_take]
    omega
  simp only [need, enough]
  split
  · next holds => simp only [Except.ok.injEq, Prod.mk.injEq, true_and, holds]
  · next fails => exact iff_of_false (fun read => by cases read) (fun both => fails both.1)

theorem rest_eq_ok_iff {value : Bytes} :
    Reader.rest input = .ok (value, rest) ↔ input = value ∧ rest = [] := by
  simp only [Reader.rest, Except.ok.injEq, Prod.mk.injEq, eq_comm]

/-- A reader reads all of an input when it leaves nothing of it. -/
theorem whole_eq_ok_iff {reader : Reader α} {value : α} :
    whole reader input = .ok value ↔ reader input = .ok (value, []) := by
  simp only [whole]
  rw [OnDemand.bind_eq_ok_iff]
  constructor
  · rintro ⟨⟨result, left⟩, read, used⟩
    cases left with
    | nil =>
        cases used
        exact read
    | cons first left => cases used
  · intro read
    exact ⟨(value, []), read, rfl⟩

/-! ## Readers that refuse nothing -/

/-- The reader takes this many bytes off every input that has them. -/
def Takes (reader : Reader α) (count : Nat) : Prop :=
  ∀ input : Bytes, count ≤ input.length →
    ∃ value rest, reader input = .ok (value, rest) ∧ input.length = count + rest.length

namespace Takes

theorem pure (value : α) : Takes (Pure.pure value) 0 := by
  intro input _
  exact ⟨value, input, rfl, (Nat.zero_add _).symm⟩

theorem bind {reader : Reader α} {next : α → Reader β} {first second : Nat}
    (front : reader.Takes first) (back : ∀ value, (next value).Takes second) :
    (reader >>= next).Takes (first + second) := by
  intro input enough
  obtain ⟨value, left, read, length⟩ := front input (by omega)
  obtain ⟨result, rest, followed, total⟩ := back value left (by omega)
  exact ⟨result, rest, bind_eq_ok_iff.mpr ⟨value, left, read, followed⟩, by omega⟩

/-- Asking for as many bytes as are taken afterwards refuses nothing more. -/
theorem need {next : Unit → Reader β} {count : Nat} (takes : (next ()).Takes count) :
    (Reader.need count >>= next).Takes count := by
  intro input enough
  obtain ⟨value, rest, read, length⟩ := takes input enough
  have asked : Reader.need count input = .ok ((), input) := need_eq_ok_iff.mpr ⟨enough, rfl⟩
  exact ⟨value, rest, bind_eq_ok_iff.mpr ⟨(), input, asked, read⟩, length⟩

theorem byte : Reader.byte.Takes 1 := by
  intro input enough
  match input with
  | value :: rest => exact ⟨value, rest, rfl, by simp only [List.length_cons]; omega⟩

theorem word16 : Reader.word16.Takes 2 := by
  intro input enough
  match input with
  | a :: b :: rest => exact ⟨Wire.ofWord16 a b, rest, rfl, by simp only [List.length_cons]; omega⟩

theorem word32 : Reader.word32.Takes 4 := by
  intro input enough
  match input with
  | a :: b :: c :: d :: rest =>
      exact ⟨Wire.ofWord32 a b c d, rest, rfl, by simp only [List.length_cons]; omega⟩

theorem signed16 : Reader.signed16.Takes 2 := word16.bind fun word => pure word.toInt16

theorem signed32 : Reader.signed32.Takes 4 := word32.bind fun word => pure word.toInt32

end Takes

end Reader

end OnDemand
