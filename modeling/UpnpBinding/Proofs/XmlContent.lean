import UpnpBinding.Proofs.XmlScan
import UpnpBinding.Proofs.Utf8
import Mathlib.Data.List.TakeWhile
import Mathlib.Data.List.TakeDrop
/-!
Runs of the reader over whole documents. Reading element content goes from one cursor (a
position, the open elements and the bindings in scope) to the next a token at a time; `Leads`
says that reading from one cursor comes to the same as reading from a later one, whatever fuel
covers the input left, so runs are chained by transitivity. One lemma per kind of token gives the
step: data, references, start tags read against the scope, end tags, and the end tag that closes
the root. Attribute values are read back a character or a reference at a time. A text that opens
with the declaration `<?xml version="1.0"?>` then reads as the root element that content reading
takes up to its end.
-/
namespace UpnpBinding.Xml

/-- Where reading element content stands: the position, the open elements, innermost first, and
the bindings in scope. -/
structure Cursor where
  pos : Nat
  stack : List Frame
  scope : Scope

namespace Source

variable {s : Source} {dtd : Dtd} {i next : Nat} {stack : List Frame} {scope : Scope}

/-- Reading content from `c` goes on as reading it from `c'`, whatever fuel covers the input
left. -/
def Leads (s : Source) (dtd : Dtd) (c c' : Cursor) : Prop :=
  ∀ fuel, s.size + 1 ≤ fuel + c.pos →
    ∃ fuel', s.size + 1 ≤ fuel' + c'.pos ∧
      s.content dtd fuel c.pos c.stack c.scope = s.content dtd fuel' c'.pos c'.stack c'.scope

theorem Leads.refl (c : Cursor) : s.Leads dtd c c := fun fuel h => ⟨fuel, h, rfl⟩

theorem Leads.trans {c c' c'' : Cursor} (h : s.Leads dtd c c') (h' : s.Leads dtd c' c'') :
    s.Leads dtd c c'' := by
  intro fuel hf
  obtain ⟨fuel', hf', heq⟩ := h fuel hf
  obtain ⟨fuel'', hf'', heq'⟩ := h' fuel' hf'
  exact ⟨fuel'', hf'', heq.trans heq'⟩

theorem leads_of_step {c c' : Cursor} (hpos : c.pos < c'.pos) (hin : c.pos ≤ s.size)
    (hstep : ∀ fuel, s.content dtd (fuel + 1) c.pos c.stack c.scope =
      s.content dtd fuel c'.pos c'.stack c'.scope) : s.Leads dtd c c' := by
  intro fuel hf
  obtain ⟨n, rfl⟩ : ∃ n, fuel = n + 1 := ⟨fuel - 1, by omega⟩
  exact ⟨n, by omega, hstep n⟩

theorem Leads.content_error {c c' : Cursor} {e : ReadError} (hl : s.Leads dtd c c')
    (hin : c'.pos ≤ s.size)
    (he : ∀ fuel, s.content dtd (fuel + 1) c'.pos c'.stack c'.scope = .error e) {fuel : Nat}
    (hf : s.size + 1 ≤ fuel + c.pos) : s.content dtd fuel c.pos c.stack c.scope = .error e := by
  obtain ⟨fuel', hf', heq⟩ := hl fuel hf
  obtain ⟨k, rfl⟩ : ∃ k, fuel' = k + 1 := ⟨fuel' - 1, by omega⟩
  rw [heq]
  exact he k

theorem content_data {t : String} (h : s.contentToken i = .token (.data t) next) (fuel : Nat) :
    s.content dtd (fuel + 1) i stack scope = s.content dtd fuel next (addData t stack) scope := by
  rw [content, h]

theorem content_charRef {c : Char} (h : s.contentToken i = .token (.reference (.char (some c))) next)
    (fuel : Nat) :
    s.content dtd (fuel + 1) i stack scope =
      s.content dtd fuel next (addData (String.singleton c) stack) scope := by
  rw [content, h]

theorem content_entity {name : String} {c : Char}
    (h : s.contentToken i = .token (.reference (.entity name)) next)
    (hc : predefinedEntity name = some c) (fuel : Nat) :
    s.content dtd (fuel + 1) i stack scope =
      s.content dtd fuel next (addData (String.singleton c) stack) scope := by
  rw [content, h]
  simp only [hc]

theorem content_open {name : String} {atts : List RawAttribute} {tag : QName}
    {attributes : List (QName × String)} {inner : Scope}
    (h : s.contentToken i = .token (.startTag name atts false) next)
    (ho : s.openTag ⟨dtd.checked, i⟩ (dtd.declsFor name) scope name atts = .ok (tag, attributes, inner))
    (fuel : Nat) :
    s.content dtd (fuel + 1) i stack scope =
      s.content dtd fuel next (⟨name, tag, attributes, none, #[], scope⟩ :: stack) inner := by
  rw [content, h]
  simp only [ho]
  rfl

theorem content_open_fault {name : String} {atts : List RawAttribute} {empty : Bool} {f : Fault}
    {p : Nat} (h : s.contentToken i = .token (.startTag name atts empty) next)
    (ho : s.openTag ⟨dtd.checked, i⟩ (dtd.declsFor name) scope name atts = .error (f, p))
    (fuel : Nat) : s.content dtd (fuel + 1) i stack scope = s.fail f p := by
  rw [content, h]
  simp only [ho]

theorem content_close {name : String} {top parent : Frame} {more : List Frame}
    (h : s.contentToken i = .token (.endTag name) next) (hn : name = top.rawName) (fuel : Nat) :
    s.content dtd (fuel + 1) i (top :: parent :: more) scope =
      s.content dtd fuel next (parent.addChild top.close :: more) top.outer := by
  rw [content, h]
  simp only [hn, bne_self_eq_false, Bool.false_eq_true, if_false]

theorem content_close_root {name : String} {top : Frame}
    (h : s.contentToken i = .token (.endTag name) next) (hn : name = top.rawName) (fuel : Nat) :
    s.content dtd (fuel + 1) i [top] scope = .ok (top.close, next) := by
  rw [content, h]
  simp only [hn, bne_self_eq_false, Bool.false_eq_true, if_false]

theorem Reads.le_size {w : List Char} (h : s.Reads i w) (hw : w ≠ []) : i + w.length ≤ s.size := by
  have hlen := h.length_le
  simp only [List.length_drop, Array.length_toList] at hlen
  obtain ⟨c, w', rfl⟩ := List.exists_cons_of_ne_nil hw
  obtain ⟨hi, -⟩ := getElem_of_reads h
  simp only [size]
  omega

theorem Reads.extract {w : List Char} {stop : Nat} (h : s.Reads i w) (hstop : i + w.length ≤ stop)
    (e : Ending) : (Source.mk (s.chars.extract 0 stop) e).Reads i w := by
  obtain ⟨t, ht⟩ := reads_iff.mp h
  refine reads_iff.mpr ⟨t.take (stop - i - w.length), ?_⟩
  rw [Array.toList_extract, List.extract_eq_take_drop, List.drop_zero, Nat.sub_zero, List.drop_take, ht,
    List.take_append, List.take_of_length_le (by omega)]

/-- The reference after the ampersand at `i` stands for `c` and ends at `next`: a character
reference, or a predefined entity. -/
def RefersTo (s : Source) (i : Nat) (c : Char) (next : Nat) : Prop :=
  s.reference (i + 1) = .token (.char (some c)) next ∨
    ∃ name, s.reference (i + 1) = .token (.entity name) next ∧ predefinedEntity name = some c

theorem refersTo_entity {n rest : List Char} {c : Char} (h : s.Reads i ('&' :: n ++ ';' :: rest))
    (hn : IsNCName n) (hc : predefinedEntity (String.ofList n) = some c) :
    s.RefersTo i c (i + n.length + 2) := by
  refine .inr ⟨_, ?_, hc⟩
  rw [reference_entity hn (reads_cons.mp h).2]
  congr 1
  omega

theorem refersTo_decimal {d : Char} {ds rest : List Char} {c : Char}
    (h : s.Reads i ('&' :: '#' :: d :: ds ++ ';' :: rest)) (hd : d.isDigit = true)
    (hds : ∀ x ∈ ds, x.isDigit = true) (hv : decimalFrom 0 (d :: ds) < 0x110000)
    (hc : referencedChar (decimalFrom 0 (d :: ds)) = some c) :
    s.RefersTo i c (i + ds.length + 4) := by
  refine .inl ?_
  rw [reference_decimal (reads_cons.mp h).2 hd hds hv, hc]
  congr 1
  omega

theorem content_refersTo {c : Char} {rest : List Char} (h : s.Reads i ('&' :: rest))
    (hr : s.RefersTo i c next) (fuel : Nat) :
    s.content dtd (fuel + 1) i stack scope =
      s.content dtd fuel next (addData (String.singleton c) stack) scope := by
  rcases hr with hr | ⟨name, hr, hc⟩
  · exact content_charRef (contentToken_amp h hr) fuel
  · exact content_entity (contentToken_amp h hr) hc fuel

variable {ctx : ValueContext} {acc : String}

theorem attributeValue_refersTo {c : Char} {rest : List Char} (h : s.Reads i ('&' :: rest))
    (hr : s.RefersTo i c next) (hi : i < next) :
    s.attributeValue ctx true i acc = s.attributeValue ctx true next (acc.push c) := by
  obtain ⟨hi', hci⟩ := getElem_of_reads h
  rw [attributeValue, dif_pos hi']
  simp only [hci, beq_self_eq_true, if_true]
  rcases hr with hr | ⟨name, hr, hc⟩
  · rw [hr]
    by_cases hsp : c = ' '
    · subst hsp
      simp [referenceValue, pushSpace, hi]
    · simp [referenceValue, hsp, hi]
  · rw [hr]
    simp [referenceValue, hc, hi]

theorem attributeValue_plain {x : Char} {rest : List Char} (h : s.Reads i (x :: rest))
    (hx : x ≠ '&' ∧ x ≠ '<' ∧ x ≠ '\r' ∧ x ≠ '\n' ∧ x ≠ '\t') :
    s.attributeValue ctx true i acc = s.attributeValue ctx true (i + 1) (acc.push x) := by
  obtain ⟨hamp, hlt, hcr, hlf, htab⟩ := hx
  obtain ⟨hi, hxi⟩ := getElem_of_reads h
  rw [attributeValue, dif_pos hi]
  by_cases hsp : x = ' '
  · subst hsp
    simp [hxi, pushSpace]
  · simp [hxi, hamp, hlt, hcr, hlf, htab, hsp]

theorem attributeValue_end (hi : s.chars.size ≤ i) : s.attributeValue ctx true i acc = .ok acc := by
  rw [attributeValue, dif_neg (by omega)]
  simp

end Source

theorem ne_colon_of_not_mem {w : List Char} (h : ':' ∉ w) : ∀ x ∈ w, (x != ':') = true := by
  intro x hx
  simp only [bne_iff_ne, ne_eq]
  rintro rfl
  exact h hx

theorem splitQName_of_not_mem {n : String} (h : ':' ∉ n.toList) : splitQName n = (none, n) := by
  unfold splitQName
  rw [List.span_eq_takeWhile_dropWhile, List.dropWhile_eq_nil_iff.mpr (ne_colon_of_not_mem h)]

theorem splitQName_prefixed {p l : String} (h : ':' ∉ p.toList) :
    splitQName (p ++ ":" ++ l) = (some p, l) := by
  have hp := ne_colon_of_not_mem h
  unfold splitQName
  simp only [String.toList_append, show (":" : String).toList = [':'] from rfl, List.append_assoc,
    List.singleton_append, List.span_eq_takeWhile_dropWhile, List.takeWhile_append_of_pos hp,
    List.dropWhile_append_of_pos hp]
  simp

namespace Source

variable {s : Source}

theorem takeAttributes_cons {ctx : ValueContext} {decls : List AttributeDecl} {st st' : TagState}
    {a : RawAttribute} {rest : List RawAttribute} {v : String} (hseen : a.name ∉ st.seen)
    (hv : s.valueBetween ctx (isCdataIn decls a.name) a.valueStart a.valueEnd = .ok v)
    (ht : ({ st with seen := a.name :: st.seen } : TagState).take ctx.undefinedAt a.name v = .ok st') :
    s.takeAttributes ctx decls st (a :: rest) = s.takeAttributes ctx decls st' rest := by
  simp [takeAttributes, hseen, hv, ht, bind, Except.bind]

end Source

theorem declaredPrefix_xmlns (p : String) : declaredPrefix ("xmlns:" ++ p) = some (some p) := by
  simp [declaredPrefix, ← String.toList_inj, String.toList_copy_drop]

theorem TagState.take_declaration {st : TagState} {t : Nat} {name value : String} {pre : Option String}
    (hp : declaredPrefix name = some pre) (hf : bindingFault pre value = none) :
    st.take t name value = .ok { st with scope := st.scope.bind pre value } := by
  simp [TagState.take, hp, hf]

theorem TagState.take_plain {st : TagState} {t : Nat} {name value : String}
    (hp : declaredPrefix name = none) :
    st.take t name value = .ok { st with plain := (name, value) :: st.plain } := by
  simp [TagState.take, hp]

theorem TagState.take_fault {st : TagState} {t : Nat} {name value : String} {pre : Option String}
    {f : Fault} (hp : declaredPrefix name = some pre) (hf : bindingFault pre value = some f) :
    st.take t name value = .error (f, t) := by
  simp [TagState.take, hp, hf]

theorem expandTagName_prefixed {sc : Scope} {t : Nat} {p l uri : String} (hp : ':' ∉ p.toList)
    (hu : sc.lookup p = some uri) : expandTagName sc t (p ++ ":" ++ l) = .ok ⟨some uri, l⟩ := by
  simp [expandTagName, splitQName_prefixed hp, hu]

theorem expandTagName_plain {sc : Scope} {t : Nat} {n : String} (h : ':' ∉ n.toList) :
    expandTagName sc t n = .ok ⟨sc.defaultUri, n⟩ := by
  simp [expandTagName, splitQName_of_not_mem h]

namespace Source

variable {s : Source} {ctx : ValueContext} {sc : Scope}

theorem openTag_plain {n : String} (h : ':' ∉ n.toList) :
    s.openTag ctx [] sc n [] = .ok (⟨sc.defaultUri, n⟩, [], sc) := by
  simp [openTag, takeAttributes, takeDefaults, expandAttributes, expandTagName_plain h, bind,
    Except.bind, pure, Except.pure]

theorem openTag_declaring {p l v : String} {r : RawAttribute} (hp : ':' ∉ p.toList)
    (hd : declaredPrefix r.name = some (some p))
    (hv : s.valueBetween ctx true r.valueStart r.valueEnd = .ok v) (hf : bindingFault (some p) v = none) :
    s.openTag ctx [] sc (p ++ ":" ++ l) [r] = .ok (⟨some v, l⟩, [], sc.bind (some p) v) := by
  have ht : s.takeAttributes ctx [] ⟨sc, [], []⟩ [r] = .ok ⟨sc.bind (some p) v, [r.name], []⟩ := by
    rw [takeAttributes_cons (v := v) (by simp) hv (TagState.take_declaration hd hf)]
    rfl
  have hl : (sc.bind (some p) v).lookup p = some v := by simp [Scope.bind, Scope.lookup]
  simp [openTag, ht, takeDefaults, expandAttributes, expandTagName_prefixed hp hl, bind, Except.bind,
    pure, Except.pure]

theorem openTag_declaring_fault {p v name : String} {r : RawAttribute} {f : Fault}
    (hd : declaredPrefix r.name = some (some p))
    (hv : s.valueBetween ctx true r.valueStart r.valueEnd = .ok v)
    (hf : bindingFault (some p) v = some f) :
    s.openTag ctx [] sc name [r] = .error (f, ctx.undefinedAt) := by
  simp [openTag, takeAttributes, isCdataIn, hv, TagState.take_fault hd hf, bind, Except.bind]

variable {dtd : Dtd} {i : Nat} {stack : List Frame}

theorem leads_startTag {w rest : List Char} {atts : List WrittenAttribute} {tag : QName}
    {attributes : List (QName × String)} {inner : Scope} (hq : IsQName w)
    (h : s.Reads i (startTagText w atts ++ rest)) (hv : ∀ a ∈ atts, s.ValueScans a)
    (ho : ∀ raws, List.Forall₂ s.Carries raws atts →
      s.openTag ⟨dtd.checked, i⟩ (dtd.declsFor (String.ofList w)) sc (String.ofList w) raws =
        .ok (tag, attributes, inner)) :
    s.Leads dtd ⟨i, stack, sc⟩
      ⟨i + (startTagText w atts).length, ⟨String.ofList w, tag, attributes, none, #[], sc⟩ :: stack,
        inner⟩ := by
  obtain ⟨raws, htok, hraws⟩ := contentToken_startTagText hq h hv
  have hle := h.le_size (by simp [startTagText])
  rw [List.length_append] at hle
  exact leads_of_step (by simp [startTagText]) (by simp only at hle ⊢; omega)
    (content_open htok (ho raws hraws))

theorem content_startTag_fault {w rest : List Char} {atts : List WrittenAttribute} {f : Fault}
    {p : Nat} (hq : IsQName w) (h : s.Reads i (startTagText w atts ++ rest))
    (hv : ∀ a ∈ atts, s.ValueScans a)
    (ho : ∀ raws, List.Forall₂ s.Carries raws atts →
      s.openTag ⟨dtd.checked, i⟩ (dtd.declsFor (String.ofList w)) sc (String.ofList w) raws =
        .error (f, p)) (fuel : Nat) :
    s.content dtd (fuel + 1) i stack sc = s.fail f p := by
  obtain ⟨raws, htok, hraws⟩ := contentToken_startTagText hq h hv
  exact content_open_fault htok (ho raws hraws) fuel

theorem leads_endTag {w rest : List Char} {top parent : Frame} {more : List Frame} (hq : IsQName w)
    (h : s.Reads i (endTagText w ++ rest)) (hn : String.ofList w = top.rawName) :
    s.Leads dtd ⟨i, top :: parent :: more, sc⟩
      ⟨i + (endTagText w).length, parent.addChild top.close :: more, top.outer⟩ := by
  have hle := h.le_size (by simp [endTagText])
  rw [List.length_append] at hle
  exact leads_of_step (by simp [endTagText]) (by simp only at hle ⊢; omega)
    (content_close (contentToken_endTagText hq h) hn)

theorem content_endTag_root {w rest : List Char} {top : Frame} (hq : IsQName w)
    (h : s.Reads i (endTagText w ++ rest)) (hn : String.ofList w = top.rawName) (fuel : Nat) :
    s.content dtd (fuel + 1) i [top] sc = .ok (top.close, i + (endTagText w).length) :=
  content_close_root (contentToken_endTagText hq h) hn fuel

end Source

namespace Source

variable {s : Source} {i : Nat}

theorem xmlDeclaration_version {rest : List Char}
    (h : s.Reads i ('<' :: '?' :: 'x' :: 'm' :: 'l' :: ' ' :: 'v' :: 'e' :: 'r' :: 's' :: 'i' :: 'o' ::
      'n' :: '=' :: '"' :: '1' :: '.' :: '0' :: '"' :: '?' :: '>' :: rest)) :
    s.xmlDeclaration i (i + 21) = .ok ⟨none, false⟩ := by
  have h5 : s.Reads (i + 5) (' ' :: (['v', 'e', 'r', 's', 'i', 'o', 'n'] ++ '=' :: '"' ::
      (['1', '.', '0'] ++ '"' :: '?' :: '>' :: rest))) := by
    have h5 := ((reads_append (u := ['<', '?', 'x', 'm', 'l'])).mp h).2
    simpa using h5
  have hfirst : s.pseudoAttribute (i + 5) (i + 19) = _ :=
    pseudoAttribute_of_reads h5 (forall_mem_of_all_decide rfl) (by decide) (.inl rfl)
      (forall_mem_of_all_decide rfl) (by simp)
  have hname : s.slice (i + 5 + 1) (i + 5 + 1 + 7) = "version" :=
    slice_of_reads (reads_append.mp (reads_cons.mp h5).2).1
  have hversion : s.pseudoNameIs ⟨i + 5 + 1, i + 5 + 1 + 7, i + 5 + 7 + 3, i + 5 + 7 + 3 + 3,
      i + 5 + 7 + 4 + 3⟩ "version" = true := by
    simp [pseudoNameIs, hname]
  have hlast : s.pseudoAttribute (i + 5 + 7 + 4 + 3) (i + 19) = .ok none := by
    simp [pseudoAttribute, show i + 5 + 7 + 4 + 3 = i + 19 by omega, pure, Except.pure]
  unfold xmlDeclaration
  simp only [show i + 21 - 2 = i + 19 by omega, hfirst, List.length_cons, List.length_nil, hversion,
    hlast, pure, Except.pure, bind, Except.bind, Bool.not_true, Bool.false_eq_true, if_false]

theorem epilog_end (he : s.ending = .complete) (fuel : Nat) : s.epilog fuel s.size = .ok () := by
  cases fuel with
  | zero => rfl
  | succ fuel => rw [epilog, prologToken_end he (show s.chars.size ≤ s.size from Nat.le_refl _)]

theorem prolog_root {dtd : Dtd} {pending : Option Declared} {root : Element} {d : Char}
    {w : List Char} (h : s.Reads i ('<' :: d :: w)) (hd : isNameStart d = true)
    (he : s.ending = .complete)
    (hc : s.content dtd (s.size + 1) i [] Scope.initial = .ok (root, s.size)) (fuel : Nat) :
    s.prolog dtd pending .opening (fuel + 1) i = .ok root := by
  rw [prolog, prologToken_instanceStart h hd]
  simp only [show Stage.opening.next .instanceStart = some (.opening, .rootStart) from rfl, hc,
    epilog_end he]

theorem prolog_of_content_error {dtd : Dtd} {pending : Option Declared} {e : ReadError} {d : Char}
    {w : List Char} (h : s.Reads i ('<' :: d :: w)) (hd : isNameStart d = true)
    (hc : s.content dtd (s.size + 1) i [] Scope.initial = .error e) (fuel : Nat) :
    s.prolog dtd pending .opening (fuel + 1) i = .error e := by
  rw [prolog, prologToken_instanceStart h hd]
  simp only [show Stage.opening.next .instanceStart = some (.opening, .rootStart) from rfl, hc]

end Source

namespace Document

variable {t : String} {d : Char} {w : List Char}

theorem read_text_eq
    (ht : t.toList = '<' :: '?' :: 'x' :: 'm' :: 'l' :: ' ' :: 'v' :: 'e' :: 'r' :: 's' :: 'i' :: 'o' ::
      'n' :: '=' :: '"' :: '1' :: '.' :: '0' :: '"' :: '?' :: '>' :: '<' :: d :: w) :
    (Document.text t).read = (Source.mk t.toList.toArray .complete).prolog (Dtd.empty false) none
      .opening (t.toList.length + 2) 21 := by
  set src : Source := ⟨t.toList.toArray, .complete⟩ with hsrc_def
  have hsrc : src.Reads 0 t.toList := Source.reads_iff.mpr ⟨[], by simp [src]⟩
  have hdec : Encoding.utf8.decodeFrom t.toUTF8 0 #[] = src := decodeUtf8_toUTF8 t
  rw [ht] at hsrc
  have hbytes : t.toUTF8.data.toList = 60 :: 63 :: 120 :: (('m' :: 'l' :: ' ' :: 'v' :: 'e' :: 'r' ::
      's' :: 'i' :: 'o' :: 'n' :: '=' :: '"' :: '1' :: '.' :: '0' :: '"' :: '?' :: '>' :: '<' :: d :: w).flatMap
      String.utf8EncodeChar) := by
    rw [data_toUTF8, ht]
    rfl
  have hund : undecided t.toUTF8 = false := by
    rw [undecided, toList_eq_data, hbytes]
    rfl
  have hdrop : t.toUTF8.data.toList.drop 0 = _ := (List.drop_zero).trans hbytes
  have hdet : Encoding.detect t.toUTF8 = .utf8 := by
    have h0 := get!_eq_of_drop hdrop (k := 0) (by simp)
    have h1 := get!_eq_of_drop hdrop (k := 1) (by simp)
    unfold Encoding.detect
    rw [h0, h1]
    split <;> rfl
  have hfirst : src.chars[0]? = some '<' := by
    obtain ⟨h0, hc⟩ := Source.getElem_of_reads hsrc
    simp [hc, h0]
  have h2 := (Source.reads_cons.mp (Source.reads_cons.mp hsrc).2).2
  have hins : src.instruction (0 + 2) = .token .declaration 21 :=
    Source.instruction_xml (w := ['v', 'e', 'r', 's', 'i', 'o', 'n', '=', '"', '1', '.', '0', '"']) h2
      (forall_mem_of_all_decide rfl)
  have hdecl : src.xmlDeclaration 0 (0 + 21) = .ok ⟨none, false⟩ := Source.xmlDeclaration_version hsrc
  have hsize : src.size = t.toList.length := by simp [src, Source.size]
  have hbom : (some '<' == some '\uFEFF') = false := by decide
  unfold read
  simp only [raw, hund, hdet, hdec, Bool.false_eq_true, if_false, hfirst, hbom,
    Source.peek_of_reads hsrc (by decide), Source.peek_of_reads (Source.reads_cons.mp hsrc).2 (by decide),
    Nat.zero_add, hins, hdecl, beq_self_eq_true, Bool.and_self, if_true, pure, Except.pure, bind,
    Except.bind]
  rw [hsize]

theorem reads_root_of_text (ht : t.toList = '<' :: '?' :: 'x' :: 'm' :: 'l' :: ' ' :: 'v' :: 'e' :: 'r' :: 's' :: 'i' :: 'o' ::
      'n' :: '=' :: '"' :: '1' :: '.' :: '0' :: '"' :: '?' :: '>' :: '<' :: d :: w) :
    (Source.mk t.toList.toArray .complete).Reads 21 ('<' :: d :: w) := by
  set src : Source := ⟨t.toList.toArray, .complete⟩
  have hsrc : src.Reads 0 t.toList := Source.reads_iff.mpr ⟨[], by simp [src]⟩
  rw [ht] at hsrc
  have hroot := ((Source.reads_append (u := ['<', '?', 'x', 'm', 'l', ' ', 'v', 'e', 'r', 's', 'i', 'o',
    'n', '=', '"', '1', '.', '0', '"', '?', '>'])).mp hsrc).2
  simpa using hroot

theorem read_text {root : Element}
    (ht : t.toList = '<' :: '?' :: 'x' :: 'm' :: 'l' :: ' ' :: 'v' :: 'e' :: 'r' :: 's' :: 'i' :: 'o' ::
      'n' :: '=' :: '"' :: '1' :: '.' :: '0' :: '"' :: '?' :: '>' :: '<' :: d :: w)
    (hd : isNameStart d = true)
    (hc : (Source.mk t.toList.toArray .complete).content (Dtd.empty false) (t.toList.length + 1) 21 []
      Scope.initial = .ok (root, t.toList.length)) :
    (Document.text t).read = .ok root := by
  have hsize : (Source.mk t.toList.toArray .complete).size = t.toList.length := by simp [Source.size]
  rw [read_text_eq ht]
  exact Source.prolog_root (reads_root_of_text ht) hd rfl (by rw [hsize]; exact hc) _

theorem read_text_error {e : ReadError}
    (ht : t.toList = '<' :: '?' :: 'x' :: 'm' :: 'l' :: ' ' :: 'v' :: 'e' :: 'r' :: 's' :: 'i' :: 'o' ::
      'n' :: '=' :: '"' :: '1' :: '.' :: '0' :: '"' :: '?' :: '>' :: '<' :: d :: w)
    (hd : isNameStart d = true)
    (hc : (Source.mk t.toList.toArray .complete).content (Dtd.empty false) (t.toList.length + 1) 21 []
      Scope.initial = .error e) :
    (Document.text t).read = .error e := by
  have hsize : (Source.mk t.toList.toArray .complete).size = t.toList.length := by simp [Source.size]
  rw [read_text_eq ht]
  exact Source.prolog_of_content_error (reads_root_of_text ht) hd (by rw [hsize]; exact hc) _

end Document

end UpnpBinding.Xml
