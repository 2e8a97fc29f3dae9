import UpnpBinding.Proofs.WireText
import UpnpBinding.Proofs.Rounding
import UpnpBinding.Client.Request
/-!
Each data type's wire codec against its check. A checked value written as wire text reads back
as itself, a NaN as a NaN, but a URL only when its text, trimmed, splits back to it: splitting
trims blanks and reads a leading `//` as a network location. A value read from any wire text
passes the check unchanged, except a NaN read for `r4`, which the reader lets through and the
check refuses. A field reads a missing or empty text as the empty text for text types, which
`char` refuses, and as nothing for the others.
-/
namespace UpnpBinding

theorem Double.magnitudeBits_eq (x : Double) : x.magnitudeBits = x.bits.toNat % 2 ^ 63 := by
  unfold magnitudeBits
  rw [UInt64.toNat_and, show (0x7FFFFFFFFFFFFFFF : UInt64).toNat = 2 ^ 63 - 1 from rfl,
    Nat.and_two_pow_sub_one_eq_mod]

theorem Double.exceedsFloat32_of_infinite {x : Double} (hf : x.isFinite = false)
    (hn : x.isNaN = false) : x.exceedsFloat32 = true := by
  have he : x.bits.toNat / 2 ^ 52 % 2 ^ 11 = 2047 := by
    simpa [isFinite, biasedExponent_eq] using hf
  have hz : x.bits.toNat % 2 ^ 52 = 0 := by
    simp only [isNaN, biasedExponent_eq, fraction_eq, he, beq_self_eq_true, Bool.true_and,
      bne_eq_false_iff_eq] at hn
    exact hn
  have hmax : float32Max.magnitudeBits = 0x47EFFFFFE0000000 := rfl
  simp only [exceedsFloat32, hn, Bool.not_false, Bool.true_and, decide_eq_true_eq, hmax,
    magnitudeBits_eq]
  omega

namespace DataType

variable {t : DataType} {s : String} {v : Value}

theorem taken_of_fromWire (hv : t.fromWire s = .ok v)
    (hnan : ¬(t = .r4 ∧ ∃ x, v = .double x ∧ x.isNaN = true)) : Taken t v := by
  cases hb : t.integerBounds? with
  | some p =>
    obtain ⟨lo, hi⟩ := p
    obtain ⟨n, -, hlo, hhi, rfl⟩ := (fromWire_bounds hb).mp hv
    exact .int hb hlo hhi
  | none =>
    cases hk : t.kind with
    | integer => exact absurd hk (kind_ne_integer hb)
    | real =>
      obtain ⟨x, -, hwide, rfl⟩ := (fromWire_real hb hk).mp hv
      refine .real hb hk ?_
      rintro ⟨rfl, hbad⟩
      -- the reader refuses only what is wide, so an infinity was refused and a NaN is excluded
      have hn : x.isNaN = false := by
        cases h : x.isNaN
        · rfl
        · exact absurd ⟨rfl, x, rfl, h⟩ hnan
      rcases hbad with hf | hx
      · exact hwide ⟨rfl, Double.exceedsFloat32_of_infinite hf hn⟩
      · exact hwide ⟨rfl, hx⟩
    | text =>
      obtain ⟨hchar, rfl⟩ := (fromWire_text hb hk).mp hv
      exact .text hb hk hchar
    | truth =>
      obtain ⟨b, -, rfl⟩ := (fromWire_truth hb hk).mp hv
      exact .truth hb hk
    | url =>
      obtain ⟨u, -, rfl⟩ := (fromWire_url hb hk).mp hv
      exact .url hb hk

theorem validate_of_fromWire (hv : t.fromWire s = .ok v)
    (hnan : ¬(t = .r4 ∧ ∃ x, v = .double x ∧ x.isNaN = true)) : t.validate v = .ok v :=
  validate_of_taken (taken_of_fromWire hv hnan)

theorem r4_reads_nan_it_refuses :
    r4.fromWire "nan" = .ok (.double ⟨0x7FF8000000000000⟩) ∧
      ∀ x : Double, x.isNaN = true → r4.validate (.double x) = .error .invalid := by
  refine ⟨rfl, fun x hx => ?_⟩
  -- a NaN has the largest biased exponent, so it is not finite
  have hinf : x.isFinite = false := by
    simp only [Double.isNaN, Bool.and_eq_true, beq_iff_eq] at hx
    simp [Double.isFinite, hx.1]
  simp [validate, integerBounds?, kind, asDouble, hinf, bind, Except.bind, throw, throwThe,
    MonadExceptOf.throw]

end DataType

namespace Field

variable {f : Field} {o : Option String} {v : Value}

theorem validate_of_fromWire (hv : f.fromWire o = .ok v) (hsome : v ≠ .none)
    (hempty : ¬(f.dataType = .char ∧ v = .text ""))
    (hnan : ¬(f.dataType = .r4 ∧ ∃ x, v = .double x ∧ x.isNaN = true)) :
    f.dataType.validate v = .ok v := by
  rcases DataType.fromWireOptional_eq_ok hv with hdefault | ⟨w, hw⟩
  · -- a missing or empty text is something only for text types: the empty text
    by_cases hk : f.dataType.kind = .text
    · rw [if_pos hk] at hdefault
      subst hdefault
      have hb : f.dataType.integerBounds? = none := by
        cases h : f.dataType <;> simp_all [DataType.kind, DataType.integerBounds?]
      exact DataType.validate_of_taken (.text hb hk fun h => hempty ⟨h.1, rfl⟩)
    · rw [if_neg hk] at hdefault
      exact absurd hdefault hsome
  · exact DataType.validate_of_fromWire hw hnan

theorem char_reads_empty_it_refuses (hc : f.dataType = .char) :
    f.fromWire none = .ok (.text "") ∧ f.fromWire (some "") = .ok (.text "") ∧
      f.dataType.validate (.text "") = .error .invalid := by
  simp only [Field.fromWire, hc]
  exact ⟨rfl, rfl, rfl⟩

end Field

/-- The wire codec of every data type agrees with its check. A checked value written and read
back is itself, a NaN as a NaN, and a URL when its text splits back to it. A value read from any
text passes the check unchanged, and so does a field's value read from any text, when it is
something; for a `char` field a missing or empty text reads as the empty text, which the check
refuses. What `r4` reads as a NaN is left aside. -/
theorem wire_codec_agrees_with_check :
    (∀ (t : DataType) (v c : Value), t.validate v = .ok c →
      (∀ u, c = .url u → Url.split (Text.trimBlank u.render) = .ok u) →
      ∃ c', t.fromWire c.wireText = .ok c' ∧ c'.SameOrNaN c) ∧
    (∀ (t : DataType) (s : String) (v : Value), t.fromWire s = .ok v →
      ¬(t = .r4 ∧ ∃ x, v = .double x ∧ x.isNaN = true) → t.validate v = .ok v) ∧
    (∀ (f : Field) (o : Option String) (v : Value), f.fromWire o = .ok v → v ≠ .none →
      ¬(f.dataType = .char ∧ v = .text "") →
      ¬(f.dataType = .r4 ∧ ∃ x, v = .double x ∧ x.isNaN = true) → f.dataType.validate v = .ok v) ∧
    (∀ f : Field, f.dataType = .char →
      f.fromWire none = .ok (.text "") ∧ f.fromWire (some "") = .ok (.text "") ∧
        f.dataType.validate (.text "") = .error .invalid) :=
  ⟨fun _ _ _ hc hurl => DataType.fromWire_wireText hc hurl,
    fun _ _ _ hv hnan => DataType.validate_of_fromWire hv hnan,
    fun _ _ _ hv hsome hempty hnan => Field.validate_of_fromWire hv hsome hempty hnan,
    fun _ hc => Field.char_reads_empty_it_refuses hc⟩

def portField : Field := ⟨"Port", ⟨"V0", "ui2", false, false, none, none, []⟩, .ui2⟩

def channelField : Field := ⟨"Channel", ⟨"V1", "char", false, false, none, none, []⟩, .char⟩

/-- A port checked for `ui2` reads back from its wire text, a device address read as a `uri`
passes its check unchanged, so does a port read from a padded text, and a `char` field reads an
empty text that its check refuses. -/
theorem wire_codec_agrees_on_port_and_address :
    (DataType.ui2.validate (.int 1400) = .ok (.int 1400) ∧
      ∃ c', DataType.ui2.fromWire (Value.int 1400).wireText = .ok c' ∧ c'.SameOrNaN (.int 1400)) ∧
    (DataType.uri.fromWire "http://sonos:1400/xml" =
        .ok (.url ⟨"http", "sonos:1400", "/xml", "", ""⟩) ∧
      DataType.uri.validate (.url ⟨"http", "sonos:1400", "/xml", "", ""⟩) =
        .ok (.url ⟨"http", "sonos:1400", "/xml", "", ""⟩)) ∧
    (portField.fromWire (some " 1400 ") = .ok (.int 1400) ∧
      portField.dataType.validate (.int 1400) = .ok (.int 1400)) ∧
    (channelField.dataType = .char ∧ channelField.fromWire (some "") = .ok (.text "") ∧
      channelField.dataType.validate (.text "") = .error .invalid) := by
  have hport : DataType.ui2.validate (.int 1400) = .ok (.int 1400) := rfl
  have hread : DataType.uri.fromWire "http://sonos:1400/xml" =
      .ok (.url ⟨"http", "sonos:1400", "/xml", "", ""⟩) := rfl
  have hpadded : portField.fromWire (some " 1400 ") = .ok (.int 1400) := rfl
  refine ⟨⟨hport, wire_codec_agrees_with_check.1 _ _ _ hport fun _ h => by cases h⟩,
    ⟨hread, wire_codec_agrees_with_check.2.1 _ _ _ hread fun h => by cases h.1⟩,
    ⟨hpadded, wire_codec_agrees_with_check.2.2.1 _ _ _ hpadded (by simp) (fun h => by cases h.2)
      fun h => by cases h.1⟩, rfl, ?_⟩
  have hchar := wire_codec_agrees_with_check.2.2.2 channelField rfl
  exact ⟨hchar.2.1, hchar.2.2⟩

/-- A `uri` value whose path ends in a blank is written with the blank and read back without
it: the codec does not give back every checked URL. -/
theorem uri_trailing_blank_not_read_back :
    DataType.uri.validate (.text "a ") = .ok (.url ⟨"", "", "a ", "", ""⟩) ∧
      ¬∃ c', DataType.uri.fromWire (Value.url ⟨"", "", "a ", "", ""⟩).wireText = .ok c' ∧
        c'.SameOrNaN (.url ⟨"", "", "a ", "", ""⟩) := by
  refine ⟨rfl, ?_⟩
  rintro ⟨c', hread, hsame⟩
  have htrimmed : DataType.uri.fromWire (Value.url ⟨"", "", "a ", "", ""⟩).wireText =
      .ok (.url ⟨"", "", "a", "", ""⟩) := rfl
  rw [htrimmed, Except.ok.injEq] at hread
  subst hread
  rcases hsame with h | ⟨x, y, h, -⟩
  · simp only [Value.url.injEq, Url.mk.injEq, true_and, and_true] at h
    exact absurd h (by decide)
  · cases h

end UpnpBinding
