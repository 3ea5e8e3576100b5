import OnDemand.Wire.Reader

/-!
# What a reader reads

A reader reads some bytes as a value when it takes exactly these bytes off the
front of every input that starts with them.  Each reader of a fixed field reads
what its writer wrote, and readers that follow each other read the bytes of both.
-/

namespace OnDemand

/-- A sequence succeeds exactly when each part does. -/
theorem bind_eq_ok_iff {ε α β : Type} {first : Except ε α} {next : α → Except ε β}
    {result : β} :
    first >>= next = .ok result ↔ ∃ value, first = .ok value ∧ next value = .ok result := by
  cases first with
  | error fault =>
      constructor
      · intro failed
        cases failed
      · rintro ⟨value, succeeded, _⟩
        cases succeeded
  | ok value =>
      constructor
      · intro succeeded
        exact ⟨value, rfl, succeeded⟩
      · rintro ⟨other, same, succeeded⟩
        cases same
        exact succeeded

/-- A sequence whose first part gives one value, and that under a condition only. -/
theorem bind_eq_ok_iff_of_iff {ε α β : Type} {first : Except ε α} {next : α → Except ε β}
    {condition : Prop} {only : α} {result : β}
    (gives : ∀ {value}, first = .ok value ↔ condition ∧ value = only) :
    first >>= next = .ok result ↔ condition ∧ next only = .ok result := by
  rw [bind_eq_ok_iff]
  constructor
  · rintro ⟨value, succeeded, rest⟩
    obtain ⟨holds, rfl⟩ := gives.mp succeeded
    exact ⟨holds, rest⟩
  · rintro ⟨holds, rest⟩
    exact ⟨only, gives.mpr ⟨holds, rfl⟩, rest⟩

namespace Wire

theorem ofWord16_word16 (value : UInt16) :
    ofWord16 (UInt8.ofNat (value.toNat / 256)) (UInt8.ofNat value.toNat) = value := by
  have bound := value.toNat_lt
  apply UInt16.toNat_inj.mp
  simp only [ofWord16, UInt8.toNat_ofNat', UInt16.toNat_ofNat']
  omega

theorem ofWord32_word32 (value : UInt32) :
    ofWord32 (UInt8.ofNat (value.toNat / 16777216)) (UInt8.ofNat (value.toNat / 65536))
      (UInt8.ofNat (value.toNat / 256)) (UInt8.ofNat value.toNat) = value := by
  have bound := value.toNat_lt
  apply UInt32.toNat_inj.mp
  simp only [ofWord32, UInt8.toNat_ofNat', UInt32.toNat_ofNat']
  omega

/-- A length has a two-byte field exactly when it fits. -/
theorem length16_eq_ok_iff {length : Nat} {field : UInt16} :
    length16 length = .ok field ↔ length < 65536 ∧ field = UInt16.ofNat length := by
  by_cases fits : length < 65536 <;> simp [length16, fits, eq_comm]

/-- A length has a one-byte field exactly when it fits. -/
theorem length8_eq_ok_iff {length : Nat} {field : UInt8} :
    length8 length = .ok field ↔ length < 256 ∧ field = UInt8.ofNat length := by
  by_cases fits : length < 256 <;> simp [length8, fits, eq_comm]

end Wire

namespace Reader

variable {α β : Type}

/-- The reader takes exactly these bytes, as this value, off the front of every
input that starts with them. -/
def Reads (reader : Reader α) (bytes : Bytes) (value : α) : Prop :=
  ∀ rest, reader (bytes ++ rest) = .ok (value, rest)

namespace Reads

theorem pure (value : α) : Reads (Pure.pure value) [] value := by
  intro rest
  rfl

/-- Readers in sequence read the bytes of the first, then those of the second. -/
theorem bind {reader : Reader α} {next : α → Reader β} {front back : Bytes}
    {value : α} {result : β}
    (first : reader.Reads front value) (second : (next value).Reads back result) :
    (reader >>= next).Reads (front ++ back) result := by
  intro rest
  have step : (reader >>= next) (front ++ (back ++ rest)) =
      reader (front ++ (back ++ rest)) >>= fun pair => next pair.1 pair.2 := rfl
  rw [List.append_assoc, step, first (back ++ rest)]
  exact second rest

/-- The last reader of a sequence that goes on without taking more bytes. -/
theorem bindLast {reader : Reader α} {next : α → Reader β} {bytes : Bytes}
    {value : α} {result : β}
    (first : reader.Reads bytes value) (second : (next value).Reads [] result) :
    (reader >>= next).Reads bytes result := by
  have sequence := first.bind second
  rwa [List.append_nil] at sequence

/-- The last reader of a sequence, whose value is put into the result. -/
theorem last {reader : Reader α} {build : α → β} {bytes : Bytes} {value : α}
    (read : reader.Reads bytes value) :
    (reader >>= fun value => Pure.pure (build value)).Reads bytes (build value) :=
  read.bindLast (pure (build value))

theorem word16 (value : UInt16) : Reader.word16.Reads (Wire.word16 value) value := by
  intro rest
  simp only [Wire.word16, List.cons_append, List.nil_append, Reader.word16,
    Wire.ofWord16_word16]

theorem word32 (value : UInt32) : Reader.word32.Reads (Wire.word32 value) value := by
  intro rest
  simp only [Wire.word32, List.cons_append, List.nil_append, Reader.word32,
    Wire.ofWord32_word32]

/-- A byte in front of what the readers after it read. -/
theorem byte {next : UInt8 → Reader β} {value : UInt8} {back : Bytes} {result : β}
    (second : (next value).Reads back result) :
    (Reader.byte >>= next).Reads (value :: back) result := by
  have first : Reader.byte.Reads [value] value := fun _ => rfl
  exact first.bind second

theorem bytes {count : Nat} (value : Bytes) (length : value.length = count) :
    (Reader.bytes count).Reads value value := by
  intro rest
  subst count
  simp [Reader.bytes]

theorem octets {count : Nat} (value : Octets count) :
    (Reader.octets count).Reads value.val value := by
  intro rest
  have taken : (value.val ++ rest).take count = value.val := by
    rw [List.take_append_of_le_length (Nat.le_of_eq value.property.symm),
      List.take_of_length_le (Nat.le_of_eq value.property)]
  have dropped : (value.val ++ rest).drop count = rest := by
    rw [List.drop_append_of_le_length (Nat.le_of_eq value.property.symm),
      List.drop_of_length_le (Nat.le_of_eq value.property), List.nil_append]
  simp only [Reader.octets, taken, dropped, value.property, dite_true]

/-- Asking for bytes that the readers after it take changes nothing. -/
theorem need {count : Nat} {next : Unit → Reader β} {bytes : Bytes} {result : β}
    (enough : count ≤ bytes.length) (second : (next ()).Reads bytes result) :
    (Reader.need count >>= next).Reads bytes result := by
  intro rest
  have taken : ((bytes ++ rest).take count).length = count := by
    rw [List.length_take, List.length_append]
    omega
  have needed : Reader.need count (bytes ++ rest) = .ok ((), bytes ++ rest) := by
    simp only [Reader.need, taken, if_true]
  have step : (Reader.need count >>= next) (bytes ++ rest) =
      Reader.need count (bytes ++ rest) >>= fun pair => next pair.1 pair.2 := rfl
  rw [step, needed]
  exact second rest

/-- A reader that reads each of some values reads them one after another. -/
theorem replicate {reader : Reader α} {write : α → Bytes} (values : List α)
    (each : ∀ value ∈ values, reader.Reads (write value) value) :
    (Reader.replicate reader values.length).Reads (values.flatMap write) values := by
  induction values with
  | nil => exact pure []
  | cons value values ih =>
      have tail := ih fun value member => each value (List.mem_cons_of_mem _ member)
      exact bind (each value List.mem_cons_self) tail.last

/-- An outcome that is known takes no bytes. -/
theorem lift {outcome : Except WireError α} {next : α → Reader β} {bytes : Bytes}
    {value : α} {result : β}
    (known : outcome = .ok value) (second : (next value).Reads bytes result) :
    ((liftM outcome : Reader α) >>= next).Reads bytes result := by
  subst known
  exact second

/-- A reader whose bytes are the whole input leaves nothing. -/
theorem whole {reader : Reader α} {bytes : Bytes} {value : α}
    (read : reader.Reads bytes value) : Reader.whole reader bytes = .ok value := by
  have all := read []
  rw [List.append_nil] at all
  simp only [Reader.whole, all]
  rfl

end Reads

end Reader

end OnDemand
