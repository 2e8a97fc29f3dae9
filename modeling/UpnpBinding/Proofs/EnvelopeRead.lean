import UpnpBinding.Proofs.Escaping
import UpnpBinding.Proofs.WireText
/-!
Call envelopes read back. An envelope is the declaration, the start tags of `s:Envelope` (which
declares `s` and gives the encoding style), `s:Body` and `u:<action>` (which declares `u`), one
element per argument holding its escaped value, and the three end tags. Read against the scopes
these tags open, it is the `Envelope` element whose one `Body` child holds the call element: in
the declared namespace, named for the action, with one child per argument, in no namespace, whose
text is the value (none when the value is empty).
-/
namespace UpnpBinding

namespace Xml

theorem IsNCName.colon_not_mem {w : List Char} (h : IsNCName w) : ':' ∉ w := by
  obtain ⟨d, r, rfl, hd, hr⟩ := h
  have hstart : isNameStart ':' = false := rfl
  have hchar : isNameChar ':' = false := rfl
  intro hm
  rcases List.mem_cons.mp hm with heq | hm
  · rw [← heq, hstart] at hd
    cases hd
  · have := hr ':' hm
    rw [hchar] at this
    cases this

theorem IsNCName.of_all {d : Char} {r : List Char} (hd : isNameStart d = true)
    (hr : r.all isNameChar = true) : IsNCName (d :: r) :=
  ⟨d, r, rfl, hd, List.all_eq_true.mp hr⟩

theorem bindingFault_prefixed {p uri : String} (hp : p ≠ "xmlns") (hx : p ≠ "xml") (he : uri ≠ "")
    (hc : '\x7d' ∉ uri.toList) (h1 : uri ≠ xmlNamespace) (h2 : uri ≠ xmlnsNamespace) :
    bindingFault (some p) uri = none := by
  simp [bindingFault, hp, hx, he, h1, h2, hc]

theorem Frame.foldl_addChild (l : List Element) (f : Frame) :
    l.foldl Frame.addChild f = { f with children := f.children ++ l.toArray } := by
  induction l generalizing f with
  | nil => simp
  | cons e l ih => simp [Frame.addChild, ih]

namespace Source

variable {s : Source} {ctx : ValueContext} {sc : Scope}

theorem openTag_prefixed {p l uri : String} (hp : ':' ∉ p.toList) (hu : sc.lookup p = some uri) :
    s.openTag ctx [] sc (p ++ ":" ++ l) [] = .ok (⟨some uri, l⟩, [], sc) := by
  simp [openTag, takeAttributes, takeDefaults, expandAttributes, expandTagName_prefixed hp hu, bind,
    Except.bind, pure, Except.pure]

theorem openTag_declaring_qualified {p l la v va : String} {r r' : RawAttribute} (hp : ':' ∉ p.toList)
    (hd : declaredPrefix r.name = some (some p))
    (hv : s.valueBetween ctx true r.valueStart r.valueEnd = .ok v) (hf : bindingFault (some p) v = none)
    (hd' : declaredPrefix r'.name = none) (hn' : r'.name = p ++ ":" ++ la) (hne : r'.name ≠ r.name)
    (hv' : s.valueBetween ctx true r'.valueStart r'.valueEnd = .ok va) :
    s.openTag ctx [] sc (p ++ ":" ++ l) [r, r'] =
      .ok (⟨some v, l⟩, [(⟨some v, la⟩, va)], sc.bind (some p) v) := by
  have ht : s.takeAttributes ctx [] ⟨sc, [], []⟩ [r, r'] =
      .ok ⟨sc.bind (some p) v, [r'.name, r.name], [(r'.name, va)]⟩ := by
    rw [takeAttributes_cons (v := v) (by simp) hv (TagState.take_declaration hd hf),
      takeAttributes_cons (v := va) (by simpa using hne) hv' (TagState.take_plain hd')]
    rfl
  have hl : (sc.bind (some p) v).lookup p = some v := by simp [Scope.bind, Scope.lookup]
  simp [openTag, ht, takeDefaults, expandAttributes, hn', splitQName_prefixed hp, hl,
    expandTagName_prefixed hp hl, bind, Except.bind, pure, Except.pure]

theorem content_of_leads_root {dtd : Dtd} {sc' : Scope} {i j : Nat} {top : Frame} {w : List Char}
    (hl : s.Leads dtd ⟨i, [], sc⟩ ⟨j, [top], sc'⟩) (hq : IsQName w) (h : s.Reads j (endTagText w))
    (hn : String.ofList w = top.rawName) (hj : j + (endTagText w).length = s.size) :
    s.content dtd (s.size + 1) i [] sc = .ok (top.close, s.size) := by
  obtain ⟨fuel, hf, heq⟩ := hl (s.size + 1) (by omega)
  simp only at hf
  have hlen : 0 < (endTagText w).length := by simp [endTagText]
  obtain ⟨k, rfl⟩ : ∃ k, fuel = k + 1 := ⟨fuel - 1, by omega⟩
  rw [heq, ← hj]
  exact content_endTag_root hq (by rwa [List.append_nil] : s.Reads j (endTagText w ++ [])) hn k

end Source

end Xml

namespace Soap

open Xml

/-- The characters of one argument as an envelope writes it: a start tag named for it, its
escaped value and the end tag. -/
def argumentText (arg : String × String) : List Char :=
  startTagText arg.1.toList [] ++ escapedChars valueEscape arg.2.toList ++ endTagText arg.1.toList

def argumentElement (arg : String × String) : Element :=
  ⟨⟨none, arg.1⟩, [], textOf arg.2, []⟩

/-- What an argument needs to read back: its name is a name without a colon, and its value holds
only characters a document may hold. -/
def Writable (arg : String × String) : Prop :=
  IsNCName arg.1.toList ∧ ∀ c ∈ arg.2.toList, isDocumentChar c = true

theorem argumentText_eq (arg : String × String) :
    ("<" ++ arg.1 ++ ">" ++ escapeValue arg.2 ++ "</" ++ arg.1 ++ ">").toList = argumentText arg := by
  simp [argumentText, startTagText, endTagText, escapeValue, toList_escapeWith]

section Content

variable {s : Source} {i : Nat} {rest : List Char}

theorem openTag_empty_plain {ctx : ValueContext} {sc : Scope} {n : List Char} (hn : IsNCName n) :
    ∀ raws, List.Forall₂ s.Carries raws ([] : List WrittenAttribute) →
      s.openTag ctx ((Dtd.empty false).declsFor (String.ofList n)) sc (String.ofList n) raws =
        .ok (⟨sc.defaultUri, String.ofList n⟩, [], sc) := by
  intro raws hraws
  cases hraws
  exact Source.openTag_plain (by simpa using hn.colon_not_mem)

theorem leads_argument {f : Frame} {more : List Frame} {sc : Scope} (hsc : sc.defaultUri = none)
    {arg : String × String} (ha : Writable arg) (h : s.Reads i (argumentText arg ++ rest)) :
    s.Leads (Dtd.empty false) ⟨i, f :: more, sc⟩
      ⟨i + (argumentText arg).length, f.addChild (argumentElement arg) :: more, sc⟩ := by
  obtain ⟨hn, hv⟩ := ha
  have hq : IsQName arg.1.toList := .plain hn
  unfold argumentText at h ⊢
  rw [List.append_assoc, List.append_assoc] at h
  -- the start tag opens an element with no text and no children yet
  let g : Frame := ⟨String.ofList arg.1.toList, ⟨sc.defaultUri, String.ofList arg.1.toList⟩, [],
    none, #[], sc⟩
  have hstart : s.Leads (Dtd.empty false) ⟨i, f :: more, sc⟩
      ⟨i + (startTagText arg.1.toList []).length, g :: f :: more, sc⟩ :=
    Source.leads_startTag hq h (by simp) (openTag_empty_plain hn)
  have h2 := (Source.reads_append.mp h).2
  have hrest : s.Reads (i + (startTagText arg.1.toList []).length)
      (escapedChars valueEscape arg.2.toList ++ '<' :: ('/' :: arg.1.toList ++ ['>'] ++ rest)) := by
    simpa [endTagText] using h2
  let top : Frame := if arg.2.toList = [] then g else g.addData (String.ofList arg.2.toList)
  have hvalue : s.Leads (Dtd.empty false) ⟨i + (startTagText arg.1.toList []).length, g :: f :: more, sc⟩
      ⟨i + (startTagText arg.1.toList []).length + (escapedChars valueEscape arg.2.toList).length,
        top :: f :: more, sc⟩ :=
    leads_escaped hv rfl hrest
  -- the end tag closes it
  have htop : String.ofList arg.1.toList = top.rawName := by
    simp only [top]
    split <;> simp [Frame.addData, g]
  have h3 := (Source.reads_append.mp h2).2
  have hend : s.Leads (Dtd.empty false)
      ⟨i + (startTagText arg.1.toList []).length + (escapedChars valueEscape arg.2.toList).length,
        top :: f :: more, sc⟩
      ⟨i + (startTagText arg.1.toList []).length + (escapedChars valueEscape arg.2.toList).length +
        (endTagText arg.1.toList).length, f.addChild top.close :: more, top.outer⟩ :=
    Source.leads_endTag hq h3 htop
  have hclose : top.close = argumentElement arg := by
    simp only [top, argumentElement, textOf, String.ofList_toList]
    split <;> simp [Frame.close, Frame.addData, g, hsc]
  have houter : top.outer = sc := by
    simp only [top]
    split <;> simp [Frame.addData, g]
  have hall := hstart.trans (hvalue.trans hend)
  rw [hclose, houter] at hall
  simpa [List.length_append, Nat.add_assoc] using hall

theorem leads_arguments {more : List Frame} {sc : Scope} (hsc : sc.defaultUri = none) :
    ∀ {args : List (String × String)} {i : Nat} {f : Frame}, (∀ a ∈ args, Writable a) →
      s.Reads i (args.flatMap argumentText ++ rest) →
      s.Leads (Dtd.empty false) ⟨i, f :: more, sc⟩
        ⟨i + (args.flatMap argumentText).length,
          (args.map argumentElement).foldl Frame.addChild f :: more, sc⟩
  | [], i, f, _, _ => by simpa using Source.Leads.refl _
  | a :: args, i, f, hargs, h => by
    rw [List.flatMap_cons, List.append_assoc] at h
    have hfirst : s.Leads (Dtd.empty false) ⟨i, f :: more, sc⟩
        ⟨i + (argumentText a).length, f.addChild (argumentElement a) :: more, sc⟩ :=
      leads_argument hsc (hargs a List.mem_cons_self) h
    have hrest : s.Leads (Dtd.empty false)
        ⟨i + (argumentText a).length, f.addChild (argumentElement a) :: more, sc⟩
        ⟨i + (argumentText a).length + (args.flatMap argumentText).length,
          (args.map argumentElement).foldl Frame.addChild (f.addChild (argumentElement a)) :: more,
          sc⟩ :=
      leads_arguments hsc (fun b hb => hargs b (List.mem_cons_of_mem a hb))
        (Source.reads_append.mp h).2
    have hall := hfirst.trans hrest
    simpa [List.flatMap_cons, Nat.add_assoc] using hall

/-- The call element as it reads: in the declared namespace, named for the action, with one
child per argument. -/
def callElement (action ns : String) (args : List (String × String)) : Element :=
  ⟨⟨some ns, action⟩, [], none, args.map argumentElement⟩

theorem declares_of_carries {a : WrittenAttribute} {r : RawAttribute} {ns : String} {b : Bool}
    {ctx : ValueContext} (hname : a.name = "xmlns:u".toList)
    (hval : a.value = escapedChars (attributeEscape b) ns.toList) (hcr : s.Carries r a) :
    declaredPrefix r.name = some (some "u") ∧
      s.valueBetween ctx true r.valueStart r.valueEnd = .ok ns := by
  refine ⟨?_, ?_⟩
  · rw [hcr.1, hname, String.ofList_toList]
    simpa using declaredPrefix_xmlns "u"
  · rw [valueBetween_of_carries hcr hval, String.ofList_toList]

theorem leads_call {f : Frame} {more : List Frame} {sc : Scope} (hsc : sc.defaultUri = none)
    {action ns : String} {args : List (String × String)} {a : WrittenAttribute}
    (hact : IsNCName action.toList) (hname : a.name = "xmlns:u".toList) (hscan : s.ValueScans a)
    (hval : ∃ b, a.value = escapedChars (attributeEscape b) ns.toList)
    (hf : bindingFault (some "u") ns = none) (hargs : ∀ x ∈ args, Writable x)
    (h : s.Reads i (startTagText ("u:" ++ action).toList [a] ++ args.flatMap argumentText ++
      endTagText ("u:" ++ action).toList ++ rest)) :
    s.Leads (Dtd.empty false) ⟨i, f :: more, sc⟩
      ⟨i + (startTagText ("u:" ++ action).toList [a] ++ args.flatMap argumentText ++
        endTagText ("u:" ++ action).toList).length, f.addChild (callElement action ns args) :: more,
        sc⟩ := by
  obtain ⟨b, hb⟩ := hval
  have hw : ("u:" ++ action).toList = ['u'] ++ ':' :: action.toList := by simp
  have hq : IsQName ("u:" ++ action).toList := hw ▸ .prefixed ⟨'u', [], rfl, rfl, by simp⟩ hact
  have hraw : String.ofList ("u:" ++ action).toList = "u" ++ ":" ++ action := by
    rw [String.ofList_toList, String.append_assoc]
    rfl
  -- the start tag declares u and opens the call
  let g : Frame := ⟨String.ofList ("u:" ++ action).toList, ⟨some ns, action⟩, [], none, #[], sc⟩
  have ho : ∀ raws, List.Forall₂ s.Carries raws [a] →
      s.openTag ⟨(Dtd.empty false).checked, i⟩ ((Dtd.empty false).declsFor
        (String.ofList ("u:" ++ action).toList)) sc (String.ofList ("u:" ++ action).toList) raws =
        .ok (⟨some ns, action⟩, [], sc.bind (some "u") ns) := by
    intro raws hraws
    obtain ⟨r, hr⟩ : ∃ r, List.Forall₂ s.Carries [r] [a] ∧ raws = [r] := by
      cases hraws with
      | cons hc hnil => cases hnil; exact ⟨_, .cons hc .nil, rfl⟩
    obtain ⟨hc, rfl⟩ := hr
    obtain ⟨hd, hv⟩ := declares_of_carries hname hb (List.forall₂_cons.mp hc).1
    rw [hraw]
    exact Source.openTag_declaring (by simp) hd hv hf
  rw [List.append_assoc, List.append_assoc] at h
  have hstart : s.Leads (Dtd.empty false) ⟨i, f :: more, sc⟩
      ⟨i + (startTagText ("u:" ++ action).toList [a]).length, g :: f :: more,
        sc.bind (some "u") ns⟩ :=
    Source.leads_startTag hq h (by simpa using hscan) ho
  -- the arguments, in a scope that still has no default namespace
  have h2 := (Source.reads_append.mp h).2
  have hargsLead : s.Leads (Dtd.empty false)
      ⟨i + (startTagText ("u:" ++ action).toList [a]).length, g :: f :: more, sc.bind (some "u") ns⟩
      ⟨i + (startTagText ("u:" ++ action).toList [a]).length + (args.flatMap argumentText).length,
        (args.map argumentElement).foldl Frame.addChild g :: f :: more, sc.bind (some "u") ns⟩ :=
    leads_arguments (show (sc.bind (some "u") ns).defaultUri = none from hsc) hargs h2
  -- the end tag closes the call and restores the outer scope
  let top := (args.map argumentElement).foldl Frame.addChild g
  have htop : top = { g with children := (args.map argumentElement).toArray } := by
    simp [top, Frame.foldl_addChild, g]
  have h3 := (Source.reads_append.mp h2).2
  have hend : s.Leads (Dtd.empty false)
      ⟨i + (startTagText ("u:" ++ action).toList [a]).length + (args.flatMap argumentText).length,
        top :: f :: more, sc.bind (some "u") ns⟩
      ⟨i + (startTagText ("u:" ++ action).toList [a]).length + (args.flatMap argumentText).length +
        (endTagText ("u:" ++ action).toList).length, f.addChild top.close :: more, top.outer⟩ :=
    Source.leads_endTag hq h3 (by rw [htop])
  have hclose : top.close = callElement action ns args := by
    rw [htop]
    simp [Frame.close, g, callElement]
  have houter : top.outer = sc := by rw [htop]
  rw [hclose, houter] at hend
  have hall := hstart.trans (hargsLead.trans hend)
  simpa [Nat.add_assoc] using hall

theorem leads_prefixedStart {f : Frame} {more : List Frame} {sc : Scope} {p l uri : String}
    (hp : IsNCName p.toList) (hl : IsNCName l.toList) (hu : sc.lookup p = some uri)
    (h : s.Reads i (startTagText (p ++ ":" ++ l).toList [] ++ rest)) :
    s.Leads (Dtd.empty false) ⟨i, f :: more, sc⟩
      ⟨i + (startTagText (p ++ ":" ++ l).toList []).length,
        ⟨String.ofList (p ++ ":" ++ l).toList, ⟨some uri, l⟩, [], none, #[], sc⟩ :: f :: more, sc⟩ := by
  have hw : (p ++ ":" ++ l).toList = p.toList ++ ':' :: l.toList := by simp
  refine Source.leads_startTag (hw ▸ .prefixed hp hl) h (by simp) ?_
  intro raws hraws
  cases hraws
  rw [String.ofList_toList]
  exact Source.openTag_prefixed hp.colon_not_mem hu

theorem leads_prefixed_around {f : Frame} {more : List Frame} {sc : Scope} {p l uri : String}
    {inner : List Char} {e : Element} (hp : IsNCName p.toList) (hl : IsNCName l.toList)
    (hu : sc.lookup p = some uri)
    (hinner : ∀ g : Frame,
      s.Reads (i + (startTagText (p ++ ":" ++ l).toList []).length)
        (inner ++ endTagText (p ++ ":" ++ l).toList ++ rest) →
      s.Leads (Dtd.empty false) ⟨i + (startTagText (p ++ ":" ++ l).toList []).length, g :: f :: more, sc⟩
        ⟨i + (startTagText (p ++ ":" ++ l).toList []).length + inner.length,
          g.addChild e :: f :: more, sc⟩)
    (h : s.Reads i (startTagText (p ++ ":" ++ l).toList [] ++ inner ++ endTagText (p ++ ":" ++ l).toList ++
      rest)) :
    s.Leads (Dtd.empty false) ⟨i, f :: more, sc⟩
      ⟨i + (startTagText (p ++ ":" ++ l).toList [] ++ inner ++ endTagText (p ++ ":" ++ l).toList).length,
        f.addChild ⟨⟨some uri, l⟩, [], none, [e]⟩ :: more, sc⟩ := by
  have hw : (p ++ ":" ++ l).toList = p.toList ++ ':' :: l.toList := by simp
  have hq : IsQName (p ++ ":" ++ l).toList := hw ▸ .prefixed hp hl
  rw [List.append_assoc, List.append_assoc] at h
  let g : Frame := ⟨String.ofList (p ++ ":" ++ l).toList, ⟨some uri, l⟩, [], none, #[], sc⟩
  have hstart : s.Leads (Dtd.empty false) ⟨i, f :: more, sc⟩
      ⟨i + (startTagText (p ++ ":" ++ l).toList []).length, g :: f :: more, sc⟩ :=
    leads_prefixedStart hp hl hu h
  have h2 := (Source.reads_append.mp h).2
  have hin := hinner g (by rwa [← List.append_assoc] at h2)
  have h3 := (Source.reads_append.mp h2).2
  have hend : s.Leads (Dtd.empty false)
      ⟨i + (startTagText (p ++ ":" ++ l).toList []).length + inner.length, g.addChild e :: f :: more, sc⟩
      ⟨i + (startTagText (p ++ ":" ++ l).toList []).length + inner.length +
        (endTagText (p ++ ":" ++ l).toList).length, f.addChild (g.addChild e).close :: more,
        (g.addChild e).outer⟩ :=
    Source.leads_endTag hq h3 rfl
  have hall := hstart.trans (hin.trans hend)
  simpa [Frame.close, Frame.addChild, g, Nat.add_assoc] using hall

end Content

theorem envelope_chars (action ns : String) (args : List (String × String))
    {aS aE aU : WrittenAttribute}
    (hS : aS.text = "xmlns:s".toList ++ '=' :: (quoteAttribute envelopeNamespace).toList)
    (hE : aE.text = "s:encodingStyle".toList ++ '=' :: (quoteAttribute encodingNamespace).toList)
    (hU : aU.text = "xmlns:u".toList ++ '=' :: (quoteAttribute ns).toList) :
    (envelope action ns args).toList = xmlDeclaration.toList ++
      (startTagText "s:Envelope".toList [aS, aE] ++
        (startTagText "s:Body".toList [] ++
          (startTagText ("u:" ++ action).toList [aU] ++ args.flatMap argumentText ++
            endTagText ("u:" ++ action).toList) ++
          endTagText "s:Body".toList) ++
        endTagText "s:Envelope".toList) := by
  -- unfolding by `delta` spares building the equation lemma of `envelope`, which is slow
  delta envelope
  simp only [String.toList_append, String.reduceToList, ↓Char.isValue, List.append_assoc,
    List.cons_append, List.nil_append, String.toList_join, startTagText, List.flatMap_cons, hS, hE,
    List.flatMap_nil, List.append_nil, hU, endTagText, List.append_cancel_left_eq, List.cons.injEq,
    List.append_cancel_right_eq, true_and]
  -- what is left is the argument elements, written one after another
  simp only [List.flatMap_map, argumentText_eq]

/-- The envelope element as it reads: in the envelope namespace, with the encoding style, and one
`Body` child that holds the call element. -/
def envelopeElement (action ns : String) (args : List (String × String)) : Element :=
  ⟨⟨some envelopeNamespace, "Envelope"⟩, [(⟨some envelopeNamespace, "encodingStyle"⟩, encodingNamespace)],
    none, [⟨⟨some envelopeNamespace, "Body"⟩, [], none, [callElement action ns args]⟩]⟩

def envelopeScope : Scope := Scope.initial.bind (some "s") envelopeNamespace

theorem bindingFault_envelope : bindingFault (some "s") envelopeNamespace = none :=
  bindingFault_prefixed (by decide) (by decide) (by decide) (by decide) (by decide) (by decide)

theorem isQName_envelope : IsQName "s:Envelope".toList :=
  .prefixed (p := ['s']) (IsNCName.of_all rfl rfl) (IsNCName.of_all (r := "nvelope".toList) rfl rfl)

section Root

variable {s : Source} {i : Nat} {rest : List Char}

theorem leads_envelopeTag {aS aE : WrittenAttribute} {b b' : Bool}
    (hSn : aS.name = "xmlns:s".toList)
    (hSv : aS.value = escapedChars (attributeEscape b) envelopeNamespace.toList)
    (hEn : aE.name = "s:encodingStyle".toList)
    (hEv : aE.value = escapedChars (attributeEscape b') encodingNamespace.toList)
    (hscan : ∀ a ∈ [aS, aE], s.ValueScans a)
    (h : s.Reads i (startTagText "s:Envelope".toList [aS, aE] ++ rest)) :
    s.Leads (Dtd.empty false) ⟨i, [], Scope.initial⟩
      ⟨i + (startTagText "s:Envelope".toList [aS, aE]).length,
        [⟨String.ofList "s:Envelope".toList, ⟨some envelopeNamespace, "Envelope"⟩,
          [(⟨some envelopeNamespace, "encodingStyle"⟩, encodingNamespace)], none, #[], Scope.initial⟩],
        envelopeScope⟩ := by
  refine Source.leads_startTag isQName_envelope h hscan ?_
  intro raws hraws
  obtain ⟨rS, rE, hcS, hcE, rfl⟩ : ∃ rS rE, s.Carries rS aS ∧ s.Carries rE aE ∧ raws = [rS, rE] := by
    cases hraws with
    | cons hcS hrest =>
      cases hrest with
      | cons hcE hnil => cases hnil; exact ⟨_, _, hcS, hcE, rfl⟩
  have hSname : rS.name = "xmlns:s" := by rw [hcS.1, hSn, String.ofList_toList]
  have hEname : rE.name = "s:encodingStyle" := by rw [hcE.1, hEn, String.ofList_toList]
  have hvS : s.valueBetween ⟨(Dtd.empty false).checked, i⟩ true rS.valueStart rS.valueEnd =
      .ok (String.ofList envelopeNamespace.toList) := valueBetween_of_carries hcS hSv
  have hvE : s.valueBetween ⟨(Dtd.empty false).checked, i⟩ true rE.valueStart rE.valueEnd =
      .ok (String.ofList encodingNamespace.toList) := valueBetween_of_carries hcE hEv
  rw [String.ofList_toList] at hvS hvE
  rw [show String.ofList "s:Envelope".toList = "s" ++ ":" ++ "Envelope" from rfl]
  exact Source.openTag_declaring_qualified (by decide) (by simpa [hSname] using declaredPrefix_xmlns "s") hvS
    bindingFault_envelope (by simp [hEname, declaredPrefix]) (by rw [hEname]; rfl)
    (by rw [hSname, hEname]; decide) hvE

end Root

theorem read_envelope {action ns : String} {args : List (String × String)}
    (hact : IsNCName action.toList) (hns : ∀ c ∈ ns.toList, isDocumentChar c = true)
    (hf : bindingFault (some "u") ns = none) (hargs : ∀ x ∈ args, Writable x) :
    (Document.text (envelope action ns args)).read = .ok (envelopeElement action ns args) := by
  obtain ⟨aS, hSn, hSt, hSs, b, hSv⟩ := quoted_attribute "xmlns:s".toList
    (.prefixed (p := "xmlns".toList) (IsNCName.of_all (r := "mlns".toList) rfl rfl)
      (IsNCName.of_all (r := []) rfl rfl)) envelopeNamespace (forall_mem_of_all_decide rfl)
  obtain ⟨aE, hEn, hEt, hEs, b', hEv⟩ := quoted_attribute "s:encodingStyle".toList
    (.prefixed (p := "s".toList) (IsNCName.of_all (r := []) rfl rfl)
      (IsNCName.of_all (r := "ncodingStyle".toList) rfl rfl)) encodingNamespace
    (forall_mem_of_all_decide rfl)
  obtain ⟨aU, hUn, hUt, hUs, hUv⟩ := quoted_attribute "xmlns:u".toList
    (.prefixed (p := "xmlns".toList) (IsNCName.of_all (r := "mlns".toList) rfl rfl)
      (IsNCName.of_all (r := []) rfl rfl)) ns hns
  have ht := envelope_chars action ns args hSt hEt hUt
  rw [show "s:Body" = "s" ++ ":" ++ "Body" from rfl] at ht
  have hxml : xmlDeclaration.toList.length = 21 := rfl
  let src : Source := ⟨(envelope action ns args).toList.toArray, .complete⟩
  have hsize : src.size = (envelope action ns args).toList.length := by simp [src, Source.size]
  have hsrc : src.Reads 0 (envelope action ns args).toList := Source.reads_iff.mpr ⟨[], by simp [src]⟩
  rw [ht] at hsrc
  have h1 := (Source.reads_append.mp hsrc).2
  rw [hxml, Nat.zero_add, List.append_assoc] at h1
  -- the start tag of the envelope
  have hstart := leads_envelopeTag hSn hSv hEn hEv (by simp [hSs, hEs]) h1
  -- the body, around the call
  have h2 := (Source.reads_append.mp h1).2
  have hlead := hstart.trans <| leads_prefixed_around (show IsNCName "s".toList from IsNCName.of_all (r := []) rfl rfl)
    (show IsNCName "Body".toList from IsNCName.of_all (r := "ody".toList) rfl rfl)
    (show envelopeScope.lookup "s" = some envelopeNamespace from rfl)
    (fun g hr => leads_call (f := g) rfl hact hUn (hUs src) hUv hf hargs
      (by rwa [List.append_assoc] at hr)) h2
  -- the end tag of the envelope closes the root
  have h3 := (Source.reads_append.mp h2).2
  have hroot := Source.content_of_leads_root hlead isQName_envelope h3 rfl
    (by rw [hsize, ht]; simp only [List.length_append, hxml]; omega)
  refine Document.read_text (d := 's') (by rw [ht]; rfl) rfl ?_
  rw [← hsize]
  exact hroot

theorem read_envelope_refused {action ns : String} {args : List (String × String)} {f : Fault}
    (hact : IsNCName action.toList) (hns : ∀ c ∈ ns.toList, isDocumentChar c = true)
    (hf : bindingFault (some "u") ns = some f) :
    ∃ p, (Document.text (envelope action ns args)).read = .error (.malformed ⟨f, p⟩) := by
  obtain ⟨aS, hSn, hSt, hSs, b, hSv⟩ := quoted_attribute "xmlns:s".toList
    (.prefixed (p := "xmlns".toList) (IsNCName.of_all (r := "mlns".toList) rfl rfl)
      (IsNCName.of_all (r := []) rfl rfl)) envelopeNamespace (forall_mem_of_all_decide rfl)
  obtain ⟨aE, hEn, hEt, hEs, b', hEv⟩ := quoted_attribute "s:encodingStyle".toList
    (.prefixed (p := "s".toList) (IsNCName.of_all (r := []) rfl rfl)
      (IsNCName.of_all (r := "ncodingStyle".toList) rfl rfl)) encodingNamespace
    (forall_mem_of_all_decide rfl)
  obtain ⟨aU, hUn, hUt, hUs, bU, hUv⟩ := quoted_attribute "xmlns:u".toList
    (.prefixed (p := "xmlns".toList) (IsNCName.of_all (r := "mlns".toList) rfl rfl)
      (IsNCName.of_all (r := []) rfl rfl)) ns hns
  have ht := envelope_chars action ns args hSt hEt hUt
  rw [show "s:Body" = "s" ++ ":" ++ "Body" from rfl] at ht
  have hxml : xmlDeclaration.toList.length = 21 := rfl
  let src : Source := ⟨(envelope action ns args).toList.toArray, .complete⟩
  have hsize : src.size = (envelope action ns args).toList.length := by simp [src, Source.size]
  have hsrc : src.Reads 0 (envelope action ns args).toList := Source.reads_iff.mpr ⟨[], by simp [src]⟩
  rw [ht] at hsrc
  have h1 := (Source.reads_append.mp hsrc).2
  rw [hxml, Nat.zero_add, List.append_assoc] at h1
  -- the start tags of the envelope and of the body
  have hstart := leads_envelopeTag hSn hSv hEn hEv (by simp [hSs, hEs]) h1
  have h2 := (Source.reads_append.mp h1).2
  simp only [List.append_assoc] at h2
  have hlead := hstart.trans <| leads_prefixedStart
    (show IsNCName "s".toList from IsNCName.of_all (r := []) rfl rfl)
    (show IsNCName "Body".toList from IsNCName.of_all (r := "ody".toList) rfl rfl)
    (show envelopeScope.lookup "s" = some envelopeNamespace from rfl) h2
  -- the start tag of the call declares `u` as `ns`, which is refused
  have h3 := (Source.reads_append.mp h2).2
  have hw : ("u:" ++ action).toList = ['u'] ++ ':' :: action.toList := by simp
  have hq : IsQName ("u:" ++ action).toList := hw ▸ .prefixed ⟨'u', [], rfl, rfl, by simp⟩ hact
  have hin := h3.le_size (by simp [startTagText])
  obtain ⟨p, hc⟩ : ∃ p, src.content (Dtd.empty false) (src.size + 1) 21 [] Scope.initial =
      src.fail f p := by
    refine ⟨?_, hlead.content_error (by simp only at hin ⊢; omega) (fun fuel =>
      Source.content_startTag_fault hq h3 (by simpa using hUs src) (fun raws hraws => ?refused)
      fuel) (by omega)⟩
    case refused =>
      obtain ⟨r, hr, rfl⟩ : ∃ r, src.Carries r aU ∧ raws = [r] := by
        cases hraws with
        | cons hc hnil => cases hnil; exact ⟨_, hc, rfl⟩
      obtain ⟨hd, hv⟩ := declares_of_carries hUn hUv hr
      exact Source.openTag_declaring_fault hd hv hf
  exact ⟨_, Document.read_text_error (d := 's') (by rw [ht]; rfl) rfl (by rw [← hsize]; exact hc)⟩

end Soap

end UpnpBinding
