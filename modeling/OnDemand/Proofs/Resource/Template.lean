import OnDemand.Proofs.Resource.RoundTrip
import OnDemand.Proofs.Wire.Template

/-!
# What is read as a resource

Field counts and the two reserved bytes of a modulation are not looked at.  Every other
byte of a resource is fixed by its value, so the bytes that are read as a resource are
those that fill its template.
-/

namespace OnDemand

open Template (exactly blank)

theorem Modulation.ofByte_eq_iff {byte : UInt8} {modulation : Modulation} :
    ofByte byte = modulation ↔ modulation.IsCanonical ∧ byte = modulation.toByte := by
  constructor
  · intro named
    subst named
    simp only [ofByte]
    split
    · next qam64 => exact ⟨trivial, qam64⟩
    · split
      · next qam256 => exact ⟨trivial, qam256⟩
      · next notQam64 notQam256 => exact ⟨⟨notQam64, notQam256⟩, rfl⟩
  · rintro ⟨canonical, same⟩
    rw [same, ofByte_toByte canonical]

theorem ElementaryStream.read_eq_ok_iff {stream : ElementaryStream} {input rest : Bytes} :
    read input = .ok (stream, rest) ↔ input = stream.bytes ++ rest := by
  simp only [read, Reader.bind_eq_ok_iff, Reader.word16_eq_ok_iff, Reader.byte_eq_ok_iff,
    Reader.pure_eq_ok_iff]
  constructor
  · intro ⟨pid, _, first, type, _, second, tag, _, third, built, last⟩
    subst first second third built last
    simp only [bytes, List.append_assoc, List.cons_append]
  · intro starts
    rw [bytes, List.append_assoc, List.cons_append] at starts
    exact ⟨_, _, starts, _, _, rfl, _, _, rfl, rfl, rfl⟩

namespace ResourceContent

variable {input rest : Bytes}

theorem eq_of_readProgram {program : MpegProgram}
    (read : readProgram input = .ok (program, rest)) :
    program.streams.length < 65536 ∧ input = fieldBytes (mpegProgram program) ++ rest := by
  have each : ∀ {input stream rest}, ElementaryStream.read input = .ok (stream, rest) ↔
      True ∧ (exactly stream.bytes).Starts input rest := by
    intro input stream rest
    rw [ElementaryStream.read_eq_ok_iff, Template.starts_exactly, true_and]
  simp only [readProgram, Reader.bind_eq_ok_iff, Reader.word16_eq_ok_iff, Reader.need_eq_ok_iff,
    Reader.replicate_eq_ok_iff each, Template.flatMap_exactly, Template.starts_exactly,
    Reader.pure_eq_ok_iff] at read
  obtain ⟨number, _, first, pmt, _, second, ca, _, third, count, _, fourth, _, _, ⟨_, fifth⟩,
    streams, _, ⟨length, _, sixth⟩, pcr, _, seventh, built, last⟩ := read
  subst first second third fourth fifth sixth seventh built last
  refine ⟨length ▸ count.toNat_lt, ?_⟩
  simp only [fieldBytes, length, UInt16.ofNat_toNat, List.append_assoc]

theorem eq_of_readModulation {modulation : AtscModulation}
    (read : readModulation input = .ok (modulation, rest)) :
    modulation.modulation.IsCanonical ∧ ∃ one other : UInt8,
      input = [modulation.transmissionSystem, modulation.innerCodingMode,
          modulation.splitBitstreamMode, modulation.modulation.toByte]
        ++ Wire.word32 modulation.symbolRate
        ++ [one, modulation.interleaveDepth, modulation.modulationMode,
          modulation.forwardErrorCorrection, other] ++ rest := by
  simp only [readModulation, Reader.bind_eq_ok_iff, Reader.byte_eq_ok_iff,
    Reader.word32_eq_ok_iff, Reader.pure_eq_ok_iff] at read
  obtain ⟨system, _, first, inner, _, second, split, _, third, byte, _, fourth, rate, _, fifth,
    one, _, sixth, depth, _, seventh, mode, _, eighth, correction, _, ninth, other, _, tenth,
    built, last⟩ := read
  subst first second third fourth fifth sixth seventh eighth ninth tenth built last
  obtain ⟨canonical, named⟩ := Modulation.ofByte_eq_iff.mp (rfl : Modulation.ofByte byte = _)
  exact ⟨canonical, one, other, by rw [← named]; rfl⟩

theorem eq_of_readCaInfo {info : ClientCaInfo} (read : readCaInfo input = .ok (info, rest)) :
    info.caInfo.length < 65536 ∧ input = fieldBytes (clientCaInfo info) ++ rest := by
  simp only [readCaInfo, Reader.bind_eq_ok_iff, Reader.word16_eq_ok_iff, Reader.bytes_eq_ok_iff,
    Reader.pure_eq_ok_iff] at read
  obtain ⟨system, _, first, protection, _, second, count, _, third, data, _, ⟨length, fourth⟩,
    built, last⟩ := read
  subst first second third fourth built last
  refine ⟨length ▸ count.toNat_lt, ?_⟩
  simp only [fieldBytes, length, UInt16.ofNat_toNat, List.append_assoc]

/-- The template of a content.  Its field count is blank unless the type is not known, and
so are the two reserved bytes of a modulation. -/
def template (content : ResourceContent) : Template :=
  match content with
  | unknown .. => exactly content.bytes
  | atscModulation m =>
      blank 2
        ++ exactly ([m.transmissionSystem, m.innerCodingMode, m.splitBitstreamMode,
          m.modulation.toByte] ++ Wire.word32 m.symbolRate)
        ++ blank 1
        ++ exactly [m.interleaveDepth, m.modulationMode, m.forwardErrorCorrection]
        ++ blank 1
  | mpegProgram _ | physicalChannel _ | downstreamBandwidth _ | headendId _ | clientCaInfo _ =>
      blank 2 ++ exactly content.fieldBytes

/-- The template of a content has as many slots as the content has bytes. -/
theorem length_template (content : ResourceContent) :
    content.template.length = content.dataLength := by
  have count : (blank 2).length = 2 := rfl
  have fields : content.fieldBytes.length + 2 = content.dataLength := by
    rw [← content.length_bytes, bytes, List.length_append, Wire.length_word16, Nat.add_comm]
  cases content with
  | unknown type fieldCount data => rw [template, Template.length_exactly, length_bytes]
  | atscModulation modulation => rfl
  | mpegProgram _ | physicalChannel _ | downstreamBandwidth _ | headendId _ | clientCaInfo _ =>
      rw [template, List.length_append, count, Template.length_exactly, Nat.add_comm, fields]

/-- A content whose field count alone is blank starts with any word. -/
theorem starts_template_of_eq {content : ResourceContent}
    (plain : content.template = blank 2 ++ exactly content.fieldBytes) :
    content.template.Starts input rest ↔
      ∃ count : UInt16, input = Wire.word16 count ++ (content.fieldBytes ++ rest) := by
  simp only [plain, Template.starts_append, Template.starts_exactly, Template.starts_blank_two]
  constructor
  · intro ⟨_, ⟨count, first⟩, second⟩
    exact ⟨count, by rw [first, second]⟩
  · intro ⟨count, starts⟩
    exact ⟨_, ⟨count, starts⟩, rfl⟩

theorem starts_template_modulation {m : AtscModulation} :
    (atscModulation m).template.Starts input rest ↔ ∃ (count : UInt16) (one other : UInt8),
      input = Wire.word16 count ++
        ([m.transmissionSystem, m.innerCodingMode, m.splitBitstreamMode, m.modulation.toByte]
          ++ Wire.word32 m.symbolRate
          ++ [one, m.interleaveDepth, m.modulationMode, m.forwardErrorCorrection, other]
          ++ rest) := by
  simp only [template, Template.starts_append, Template.starts_exactly, Template.starts_blank_one,
    Template.starts_blank_two]
  constructor
  · intro ⟨_, ⟨_, ⟨_, ⟨_, ⟨count, first⟩, second⟩, one, third⟩, fourth⟩, other, fifth⟩
    subst first second third fourth fifth
    exact ⟨count, one, other, by simp only [List.append_assoc, List.cons_append, List.nil_append]⟩
  · intro ⟨count, one, other, starts⟩
    refine ⟨_, ⟨_, ⟨_, ⟨_, ⟨count, ?_⟩, rfl⟩, one, rfl⟩, rfl⟩, other, rfl⟩
    simp only [starts, List.append_assoc, List.cons_append, List.nil_append]

/-- What is read as a content of a type fills the template of the content. -/
theorem starts_of_read {type : UInt16} {content : ResourceContent}
    (readAll : read type input = .ok (content, [])) :
    content.type = type ∧ content.IsCanonical ∧ content.template.Starts input [] := by
  by_cases known : type ∈ knownTypes
  · simp only [knownTypes, List.mem_cons, List.not_mem_nil, or_false] at known
    rcases known with rfl | rfl | rfl | rfl | rfl | rfl
    all_goals
      simp only [read, UInt16.reduceToNat, Reader.bind_eq_ok_iff, Reader.word16_eq_ok_iff,
        Reader.word32_eq_ok_iff, Reader.octets_eq_ok_iff, Reader.pure_eq_ok_iff] at readAll
    · obtain ⟨count, fields, first, program, _, readFields, rfl, rfl⟩ := readAll
      obtain ⟨_, second⟩ := eq_of_readProgram readFields
      exact ⟨rfl, trivial, (starts_template_of_eq rfl).mpr ⟨count, by rw [first, second]⟩⟩
    · obtain ⟨count, _, first, frequency, _, rfl, direction, _, rfl, rfl, rfl⟩ := readAll
      exact ⟨rfl, trivial, (starts_template_of_eq rfl).mpr ⟨count, first⟩⟩
    · obtain ⟨count, _, first, rate, _, rfl, stream, _, rfl, rfl, rfl⟩ := readAll
      exact ⟨rfl, trivial, (starts_template_of_eq rfl).mpr ⟨count, first⟩⟩
    · obtain ⟨count, fields, first, modulation, _, readFields, rfl, rfl⟩ := readAll
      obtain ⟨canonical, one, other, second⟩ := eq_of_readModulation readFields
      exact ⟨rfl, canonical,
        starts_template_modulation.mpr ⟨count, one, other, by rw [first, second]⟩⟩
    · obtain ⟨count, _, first, flag, _, rfl, headend, _, rfl, stream, _, rfl, rfl, rfl⟩ := readAll
      refine ⟨rfl, trivial, (starts_template_of_eq rfl).mpr ⟨count, ?_⟩⟩
      rw [first, fieldBytes, List.append_assoc, List.append_assoc]
    · obtain ⟨count, fields, first, info, _, readFields, rfl, rfl⟩ := readAll
      obtain ⟨_, second⟩ := eq_of_readCaInfo readFields
      exact ⟨rfl, trivial, (starts_template_of_eq rfl).mpr ⟨count, by rw [first, second]⟩⟩
  · rw [read_of_unknown known] at readAll
    simp only [Reader.bind_eq_ok_iff, Reader.word16_eq_ok_iff, Reader.rest_eq_ok_iff,
      Reader.pure_eq_ok_iff] at readAll
    obtain ⟨count, _, first, data, _, ⟨rfl, rfl⟩, rfl, _⟩ := readAll
    refine ⟨rfl, known, ?_⟩
    rw [template, Template.starts_exactly, first, List.append_nil]
    rfl

/-- A short row of bytes that fills the template of a content is read as the content. -/
theorem whole_read_of_starts {content : ResourceContent} (short : input.length < 65536)
    (canonical : content.IsCanonical) (starts : content.template.Starts input []) :
    Reader.whole (read content.type) input = .ok content := by
  have fits : content.dataLength < 65536 := by
    rw [starts.length_eq, length_template] at short
    exact short
  cases content with
  | unknown type count data =>
      rw [template, Template.starts_exactly, List.append_nil] at starts
      rw [starts]
      exact whole_read_fieldBytes fits canonical fun _ => rfl
  | atscModulation modulation =>
      obtain ⟨count, one, other, rfl⟩ := starts_template_modulation.mp starts
      rw [List.append_nil]
      exact Reader.Reads.whole (.bind (.word16 count) (.last (reads_modulation canonical _ _)))
  | mpegProgram _ | physicalChannel _ | downstreamBandwidth _ | headendId _ | clientCaInfo _ =>
      obtain ⟨count, rfl⟩ := (starts_template_of_eq rfl).mp starts
      rw [List.append_nil]
      exact whole_read_fieldBytes fits canonical fun foreign =>
        absurd (by simp [type, knownTypes]) foreign

/-- The blank slots of a content. -/
theorem isBlank_template_iff {content : ResourceContent} {offset : Nat}
    (canonical : content.IsCanonical) :
    content.template.IsBlank offset ↔
      content.type ∈ knownTypes ∧ offset < 2 ∨
        (∃ modulation, content = atscModulation modulation) ∧ (offset = 10 ∨ offset = 14) := by
  cases content with
  | unknown type count data =>
      refine iff_of_false Template.not_isBlank_exactly ?_
      intro either
      cases either with
      | inl known => exact canonical known.1
      | inr other => cases other.1.choose_spec
  | atscModulation modulation =>
      have known : (atscModulation modulation).type ∈ knownTypes := by simp [type, knownTypes]
      have present : ∃ again, atscModulation modulation = atscModulation again := ⟨_, rfl⟩
      simp only [template, Template.isBlank_append, Template.not_isBlank_exactly,
        Template.isBlank_blank, List.length_append, Template.length_exactly,
        Template.length_blank, and_false, exists_false, or_false, known, present, true_and,
        List.length_cons, List.length_nil, Wire.length_word32]
      grind
  | mpegProgram _ | physicalChannel _ | downstreamBandwidth _ | headendId _ | clientCaInfo _ =>
      simp [template, Template.isBlank_append, Template.not_isBlank_exactly,
        Template.isBlank_blank, type, knownTypes]

end ResourceContent

namespace Resource

/-- The bytes of a resource in front of its content. -/
def head (resource : Resource) : Bytes :=
  Wire.word16 resource.requestId ++ Wire.word16 resource.content.type
    ++ Wire.word16 resource.resourceNumber ++ Wire.word16 resource.associationTag
    ++ resource.flags :: resource.status
      :: Wire.word16 (UInt16.ofNat resource.content.dataLength)

/-- The template of a resource. -/
def template (resource : Resource) : Template := exactly resource.head ++ resource.content.template

/-- Bytes are read as a resource exactly when they fill its template. -/
theorem decode_eq_ok_iff {resource : Resource} {input rest : Bytes} :
    decode input = .ok (resource, rest) ↔
      (resource.content.dataLength < 65536 ∧ resource.IsCanonical) ∧
        resource.template.Starts input rest := by
  rw [template, Template.starts_append]
  simp only [decode, Reader.bind_eq_ok_iff, Reader.word16_eq_ok_iff, Reader.byte_eq_ok_iff,
    Reader.bytes_eq_ok_iff, Reader.lift_eq_ok_iff, Reader.pure_eq_ok_iff, Template.starts_exactly]
  constructor
  · intro ⟨requestId, _, first, type, _, second, number, _, third, tag, _, fourth, flags, _, fifth,
      status, _, sixth, length, _, seventh, data, _, ⟨count, eighth⟩, content, _, ⟨whole, ninth⟩,
      built, last⟩
    subst first second third fourth fifth sixth seventh eighth ninth built last
    obtain ⟨rfl, canonical, starts⟩ :=
      ResourceContent.starts_of_read (Reader.whole_eq_ok_iff.mp whole)
    have filled : content.dataLength = length.toNat := by
      rw [← count, starts.length_eq, ResourceContent.length_template]
      rfl
    refine ⟨⟨filled ▸ length.toNat_lt, canonical⟩, _, ?_,
      Template.starts_iff_exists.mpr ⟨data, starts, rfl⟩⟩
    simp only [head, filled, UInt16.ofNat_toNat, List.append_assoc, List.cons_append]
  · intro ⟨⟨fits, canonical⟩, left, first, starts⟩
    obtain ⟨data, filled, split⟩ := Template.starts_iff_exists.mp starts
    have count : data.length = (UInt16.ofNat resource.content.dataLength).toNat := by
      rw [filled.length_eq, ResourceContent.length_template, UInt16.toNat_ofNat_of_lt' fits]
      rfl
    have short : data.length < 65536 := count ▸ UInt16.toNat_lt _
    have whole := ResourceContent.whole_read_of_starts short canonical filled
    exact ⟨_, _, by rw [first, head]; simp only [List.append_assoc, List.cons_append],
      _, _, rfl, _, _, rfl, _, _, rfl, _, _, rfl, _, _, rfl, _, _, rfl, data, _, ⟨count, split⟩,
      resource.content, _, ⟨whole, rfl⟩, rfl, rfl⟩

/-- The blank slots of a resource. -/
theorem isBlank_template_iff {resource : Resource} {offset : Nat}
    (canonical : resource.IsCanonical) :
    resource.template.IsBlank offset ↔
      resource.content.type ∈ ResourceContent.knownTypes ∧ (offset = 12 ∨ offset = 13) ∨
        (∃ modulation, resource.content = .atscModulation modulation) ∧
          (offset = 22 ∨ offset = 26) := by
  have head : (exactly resource.head).length = 12 := rfl
  simp only [template, Template.isBlank_append, Template.not_isBlank_exactly, false_or, head,
    ResourceContent.isBlank_template_iff canonical]
  constructor
  · intro ⟨place, beyond, either⟩
    cases either with
    | inl known => exact .inl ⟨known.1, by omega⟩
    | inr modulated => exact .inr ⟨modulated.1, by omega⟩
  · intro either
    cases either with
    | inl known => exact ⟨offset - 12, by omega, .inl ⟨known.1, by omega⟩⟩
    | inr modulated => exact ⟨offset - 12, by omega, .inr ⟨modulated.1, by omega⟩⟩

end Resource

end OnDemand
