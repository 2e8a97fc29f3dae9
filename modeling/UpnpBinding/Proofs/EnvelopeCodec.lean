import UpnpBinding.Proofs.RequestRoundTrip
import UpnpBinding.Proofs.LenientDecoding
/-!
The envelope codec. A call envelope, written for an action, a namespace and argument texts, reads
back from its text or from its UTF-8 bytes as the call element in that namespace. Its values are
the arguments by name: each name once, in the order of its first argument, with the text of its
last argument, none when that text is empty. Under any other name the body holds nothing.

The namespace must be declarable for the prefix `u`: a namespace that holds the brace ending a
qualified name, or a reserved one, makes the whole envelope unreadable.
-/
namespace UpnpBinding

namespace Soap

/-- The values an envelope carries for its arguments: each name once, in the order of its first
argument, with the text of its last argument, none when that text is empty. -/
def carriedValues (args : List (String × String)) : List (String × Option String) :=
  (args.map (·.1)).eraseDups.map fun n =>
    (n, ((args.reverse.find? (·.1 == n)).map (·.2)).bind Xml.textOf)

example : carriedValues [("A", "x"), ("B", "y"), ("A", "")] = [("A", none), ("B", some "y")] := by
  decide

theorem keys_carriedValues (args : List (String × String)) :
    (carriedValues args).map (·.1) = (args.map (·.1)).eraseDups := by
  simp [carriedValues, Function.comp_def]

theorem find?_carriedValues (args : List (String × String)) (k : String) :
    (carriedValues args).find? (·.1 == k) =
      (args.reverse.find? (·.1 == k)).map fun a => (a.1, Xml.textOf a.2) := by
  unfold carriedValues
  simp only [List.find?_map, Function.comp_def]
  by_cases hk : k ∈ args.map (·.1)
  · -- the name is found among the names and, last first, among the arguments
    obtain ⟨a, ha, rfl⟩ := List.mem_map.mp hk
    have hname : (args.map (·.1)).eraseDups.find? (· == a.1) = some a.1 := by
      obtain ⟨x, hx⟩ := Option.isSome_iff_exists.mp ((List.find?_isSome (p := (· == a.1))).mpr
        ⟨a.1, List.mem_eraseDups.mpr hk, beq_self_eq_true _⟩)
      have hxa : x = a.1 := by simpa using List.find?_some hx
      rw [hx, hxa]
    obtain ⟨b, hb⟩ := Option.isSome_iff_exists.mp ((List.find?_isSome (p := (·.1 == a.1))).mpr
      ⟨a, List.mem_reverse.mpr ha, beq_self_eq_true _⟩)
    have hba : b.1 = a.1 := by simpa using List.find?_some hb
    simp [hname, hb, hba]
  · -- neither finds it
    have hnone : (args.map (·.1)).eraseDups.find? (· == k) = none :=
      List.find?_eq_none.mpr fun x hx hxk =>
        hk (beq_iff_eq.mp hxk ▸ List.mem_eraseDups.mp hx)
    have hargs : args.reverse.find? (·.1 == k) = none :=
      List.find?_eq_none.mpr fun a ha hak =>
        hk (beq_iff_eq.mp hak ▸ List.mem_map_of_mem (List.mem_reverse.mp ha))
    simp [hnone, hargs]

theorem elementValues_callElement (action ns : String) (args : List (String × String)) :
    elementValues (callElement action ns args) = carriedValues args := by
  have hvalues : elementValues (callElement action ns args) =
      (args.map fun a => (a.1, Xml.textOf a.2)).foldl (putBy Prod.fst) [] := by
    rw [elementValues_eq_foldl]
    simp [callElement, argumentElement, Function.comp_def]
  rw [hvalues]
  refine eq_of_find?_eq ?_ (nodup_keys_foldl_putBy _) fun k => ?_
  · rw [keys_foldl_putBy, keys_carriedValues, List.map_map]
    rfl
  · rw [find?_foldl_putBy, find?_carriedValues, ← List.map_reverse, List.find?_map]
    rfl

theorem findInEnvelope_toUTF8 (t name : String) :
    findInEnvelope (.bytes t.toUTF8) name = findInEnvelope (.text t) name := by
  unfold findInEnvelope
  rw [Xml.Document.lenientText, Xml.Document.lenientText, Text.utf8Lenient_toUTF8]

/-- A call envelope whose action is a name without a colon, whose namespace can be declared and
whose arguments can be written reads back, from its text or its UTF-8 bytes, as the call element:
in that namespace, with the values the envelope carries. Under any other name the body holds
nothing. -/
theorem envelope_reads_back {action ns : String} {args : List (String × String)}
    (hact : Xml.IsNCName action.toList) (hns : Declarable ns) (hargs : ∀ x ∈ args, Writable x)
    {doc : Xml.Document}
    (hdoc : doc = .text (envelope action ns args) ∨ doc = .bytes (envelope action ns args).toUTF8) :
    (∃ e, findInEnvelope doc action = .ok (some e) ∧ elementNamespace e = some ns ∧
        elementValues e = carriedValues args) ∧
      ∀ name, name ≠ action → findInEnvelope doc name = .ok none := by
  have htext : ∀ name, findInEnvelope doc name =
      findInEnvelope (.text (envelope action ns args)) name := by
    rcases hdoc with rfl | rfl
    · exact fun _ => rfl
    · exact findInEnvelope_toUTF8 _
  have hfind := findInEnvelope_envelope_eq hact hns.2.2.2.2 (bindingFault_of_declarable hns) hargs
  refine ⟨⟨callElement action ns args, ?_, rfl, elementValues_callElement action ns args⟩,
    fun name hne => ?_⟩
  · rw [htext, hfind, if_pos rfl]
  · rw [htext, hfind, if_neg (Ne.symm hne)]

theorem echo_envelope_reads_back :
    Xml.IsNCName "Echo".toList ∧ Declarable echoType ∧
      (∀ x ∈ [("A", "x"), ("A", "")], Writable x) ∧
      ((∃ e, findInEnvelope (.bytes (envelope "Echo" echoType [("A", "x"), ("A", "")]).toUTF8)
          "Echo" = .ok (some e) ∧ elementNamespace e = some echoType ∧
          elementValues e = carriedValues [("A", "x"), ("A", "")]) ∧
        ∀ name, name ≠ "Echo" →
          findInEnvelope (.bytes (envelope "Echo" echoType [("A", "x"), ("A", "")]).toUTF8) name =
            .ok none) := by
  have hw : ∀ x ∈ [("A", "x"), ("A", "")], Writable x := by
    intro x hx
    simp only [List.mem_cons, List.not_mem_nil, or_false] at hx
    rcases hx with rfl | rfl
    · exact ⟨isNCName_A, List.all_eq_true.mp rfl⟩
    · exact ⟨isNCName_A, List.all_eq_true.mp rfl⟩
  exact ⟨isNCName_echo, echoType_declarable, hw,
    envelope_reads_back isNCName_echo echoType_declarable hw (.inr rfl)⟩

theorem findInEnvelope_refused {action ns : String} {args : List (String × String)}
    {f : Xml.Fault} (hact : Xml.IsNCName action.toList)
    (hns : ∀ c ∈ ns.toList, Xml.isDocumentChar c = true)
    (hf : Xml.bindingFault (some "u") ns = some f) (name : String) :
    ∃ p, findInEnvelope (.text (envelope action ns args)) name =
      .error (.unreadable (.malformed ⟨f, p⟩)) := by
  obtain ⟨p, hp⟩ : ∃ p, (Xml.Document.text (envelope action ns args)).read =
      .error (.malformed ⟨f, p⟩) := read_envelope_refused hact hns hf
  refine ⟨p, ?_⟩
  unfold findInEnvelope
  simp only [Xml.Document.lenientText, trimWhile_envelope, hp]

/-- A namespace holding the brace that ends a qualified name is written into the envelope of an
`Echo` call, which then cannot be read back. -/
theorem brace_namespace_refused :
    Xml.IsNCName "Echo".toList ∧ "a\x7db" ≠ "" ∧
      (∀ c ∈ "a\x7db".toList, Xml.isDocumentChar c = true) ∧ (∀ x ∈ [("A", "x")], Writable x) ∧
      ∃ p, findInEnvelope (.text (envelope "Echo" "a\x7db" [("A", "x")])) "Echo" =
        .error (.unreadable (.malformed ⟨.outOfPlace, p⟩)) := by
  have hchars : ∀ c ∈ "a\x7db".toList, Xml.isDocumentChar c = true := List.all_eq_true.mp rfl
  refine ⟨isNCName_echo, by decide, hchars, fun x hx => ?_,
    findInEnvelope_refused isNCName_echo hchars (by simp [Xml.bindingFault]) "Echo"⟩
  rw [List.mem_singleton] at hx
  subst hx
  exact ⟨isNCName_A, List.all_eq_true.mp rfl⟩

end Soap

end UpnpBinding
