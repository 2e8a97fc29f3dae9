import UpnpBinding.Proofs.EntityValues
import UpnpBinding.Proofs.Event
import UpnpBinding.Scpd.Reader
/-!
No entity is ever expanded, at any of the places a document comes in. A service description, the
element found in an envelope, the properties of a notification and what a binding takes in from
it do not depend on the value of an entity the text declares. A text whose reading takes in an
entity's declaration is refused as forbidden XML at each of them: the request and the response an
envelope carries fail, and a notification changes nothing. What each place cuts from the ends of
the text before reading it leaves the value where it is.
-/
namespace UpnpBinding

namespace Text

variable {p : Char → Bool} {u w : List Char} {c : Char}

theorem dropWhile_append_cons (hc : p c = false) :
    (u ++ c :: w).dropWhile p = u.dropWhile p ++ c :: w := by
  rw [List.dropWhile_append]
  split
  · rename_i h
    rw [List.isEmpty_iff.mp h, List.nil_append, List.dropWhile_cons_of_neg (by simp [hc])]
  · rfl

theorem dropRightWhile_ofList (hc : p c = false) :
    dropRightWhile p (String.ofList (u ++ c :: w)) =
      String.ofList (u ++ c :: (w.reverse.dropWhile p).reverse) := by
  unfold dropRightWhile
  have hrev : (u ++ c :: w).reverse = w.reverse ++ c :: u.reverse := by simp
  rw [String.toList_ofList, hrev, dropWhile_append_cons hc]
  simp

theorem dropLeftWhile_ofList (hc : p c = false) :
    dropLeftWhile p (String.ofList (u ++ c :: w)) = String.ofList (u.dropWhile p ++ c :: w) := by
  unfold dropLeftWhile
  rw [String.toList_ofList, dropWhile_append_cons hc]

theorem trimWhile_ofList {v : List Char} (hc : p c = false) :
    trimWhile p (String.ofList (u ++ c :: v ++ c :: w)) =
      String.ofList (u.dropWhile p ++ c :: v ++ c :: (w.reverse.dropWhile p).reverse) := by
  unfold trimWhile
  rw [show u ++ c :: v ++ c :: w = u ++ c :: (v ++ c :: w) by simp, dropLeftWhile_ofList hc,
    show u.dropWhile p ++ c :: (v ++ c :: w) = u.dropWhile p ++ c :: v ++ c :: w by simp,
    dropRightWhile_ofList hc]

end Text

open Xml

section EntityValues

variable {pre r r' post : List Char} {q : Char}

theorem isDocumentPadding_quote (hq : q = '"' ∨ q = '\'') : Text.isDocumentPadding q = false := by
  rcases hq with rfl | rfl <;> rfl

theorem Scpd.read_entityValue (hq : q = '"' ∨ q = '\'')
    (hr : ∀ c ∈ r, isDocumentChar c = true ∧ c ≠ q) (hr' : ∀ c ∈ r', isDocumentChar c = true ∧ c ≠ q)
    (hv : (Source.ofChars (pre ++ q :: r ++ q :: post)).ValueAt pre.length) :
    (Scpd.read (.text (String.ofList (pre ++ q :: r ++ q :: post)))).toOption =
      (Scpd.read (.text (String.ofList (pre ++ q :: r' ++ q :: post)))).toOption := by
  have hpad := isDocumentPadding_quote hq
  -- the padding cut from the end leaves the value and the text before it
  have hv' : (Source.ofChars (pre ++ q :: r ++ q ::
      (post.reverse.dropWhile Text.isDocumentPadding).reverse)).ValueAt pre.length := hv.replace hq
  have hrel := Document.read_entityValue_alike hq hr hr' hv'
  simp only [Scpd.read, Document.trimEnd]
  rw [Text.dropRightWhile_ofList hpad, Text.dropRightWhile_ofList hpad]
  rcases hrel.eq_or_error with heq | ⟨e, e', he, he', -⟩
  · rw [heq]
  · rw [he, he']
    rfl

theorem Soap.findInEnvelope_entityValue (hq : q = '"' ∨ q = '\'')
    (hr : ∀ c ∈ r, isDocumentChar c = true ∧ c ≠ q) (hr' : ∀ c ∈ r', isDocumentChar c = true ∧ c ≠ q)
    {msg msg' : Document} (hm : msg.lenientText = String.ofList (pre ++ q :: r ++ q :: post))
    (hm' : msg'.lenientText = String.ofList (pre ++ q :: r' ++ q :: post))
    (hv : (Source.ofChars (pre.dropWhile Soap.isMessagePadding ++ q :: r ++ q :: post)).ValueAt
      (pre.dropWhile Soap.isMessagePadding).length) (name : String) :
    (Soap.findInEnvelope msg name).toOption = (Soap.findInEnvelope msg' name).toOption := by
  have hpad : Soap.isMessagePadding q = false := isDocumentPadding_quote hq
  have hv' : (Source.ofChars (pre.dropWhile Soap.isMessagePadding ++ q :: r ++ q ::
      (post.reverse.dropWhile Soap.isMessagePadding).reverse)).ValueAt
      (pre.dropWhile Soap.isMessagePadding).length := hv.replace hq
  have hrel := Document.read_entityValue_alike hq hr hr' hv'
  simp only [Soap.findInEnvelope]
  rw [hm, hm', Text.trimWhile_ofList hpad, Text.trimWhile_ofList hpad]
  rcases hrel.eq_or_error with heq | ⟨e, e', he, he', -⟩
  · rw [heq]
  · rw [he, he']
    rfl

theorem PropertySet.read_entityValue (hq : q = '"' ∨ q = '\'')
    (hr : ∀ c ∈ r, isDocumentChar c = true ∧ c ≠ q) (hr' : ∀ c ∈ r', isDocumentChar c = true ∧ c ≠ q)
    {msg msg' : Document} (hm : msg.lenientText = String.ofList (pre ++ q :: r ++ q :: post))
    (hm' : msg'.lenientText = String.ofList (pre ++ q :: r' ++ q :: post))
    (hv : (Source.ofChars (pre ++ q :: r ++ q :: post)).ValueAt pre.length) :
    (PropertySet.read msg).toOption = (PropertySet.read msg').toOption := by
  have hpad : Soap.isMessagePadding q = false := isDocumentPadding_quote hq
  have hv' : (Source.ofChars (pre ++ q :: r ++ q ::
      (post.reverse.dropWhile Soap.isMessagePadding).reverse)).ValueAt pre.length := hv.replace hq
  have hrel := Document.read_entityValue_alike hq hr hr' hv'
  simp only [PropertySet.read]
  rw [hm, hm', Text.dropRightWhile_ofList hpad, Text.dropRightWhile_ofList hpad]
  rcases hrel.eq_or_error with heq | ⟨e, e', he, he', -⟩
  · rw [heq]
  · rw [he, he']
    rfl

end EntityValues

namespace Binding

theorem handleEvent_of_toOption {body body' : Document}
    (h : (PropertySet.read body).toOption = (PropertySet.read body').toOption) (b : Binding) :
    b.handleEvent body = b.handleEvent body' := by
  have hchanges : b.changes body = b.changes body' := by
    unfold changes
    cases h₁ : PropertySet.read body <;> cases h₂ : PropertySet.read body' <;>
      simp_all [Except.toOption]
  simp only [handleEvent, hchanges]

end Binding

section Declarations

variable {d : Declared}

theorem Scpd.read_of_declaresEntity {t : String}
    (h : (Source.ofChars (Text.dropRightWhile Text.isDocumentPadding t).toList).DeclaresEntity d) :
    ∃ systemId publicId,
      Scpd.read (.text t) = .error (.unreadable (.entityDeclared d.name systemId publicId)) := by
  obtain ⟨systemId, publicId, he⟩ := Document.read_of_declaresEntity h
  rw [String.ofList_toList] at he
  refine ⟨systemId, publicId, ?_⟩
  simp only [Scpd.read, Document.trimEnd]
  rw [he]

theorem Soap.findInEnvelope_of_declaresEntity {msg : Document}
    (h : (Source.ofChars (Text.trimWhile Soap.isMessagePadding msg.lenientText).toList).DeclaresEntity d) :
    ∃ systemId publicId,
      (∀ name, Soap.findInEnvelope msg name = .error (.unreadable (.entityDeclared d.name systemId publicId))) ∧
      (∀ a, Binding.parseRequest a msg =
        .error (.unreadableEnvelope (.unreadable (.entityDeclared d.name systemId publicId)))) ∧
      ∀ (b : Binding) a, b.parseResponse a msg =
        .error (.unreadableEnvelope (.unreadable (.entityDeclared d.name systemId publicId))) := by
  obtain ⟨systemId, publicId, he⟩ := Document.read_of_declaresEntity h
  rw [String.ofList_toList] at he
  have hfind : ∀ name, Soap.findInEnvelope msg name =
      .error (.unreadable (.entityDeclared d.name systemId publicId)) := by
    intro name
    simp only [Soap.findInEnvelope]
    rw [he]
  refine ⟨systemId, publicId, hfind, fun a => ?_, fun b a => ?_⟩
  · unfold Binding.parseRequest
    rw [hfind]
    rfl
  · unfold Binding.parseResponse
    rw [hfind]
    rfl

theorem PropertySet.read_of_declaresEntity {msg : Document}
    (h : (Source.ofChars (Text.dropRightWhile Soap.isMessagePadding msg.lenientText).toList).DeclaresEntity d) :
    (∃ systemId publicId,
      PropertySet.read msg = .error (.unreadable (.entityDeclared d.name systemId publicId))) ∧
      ∀ b : Binding, b.handleEvent msg = (b, []) := by
  obtain ⟨systemId, publicId, he⟩ := Document.read_of_declaresEntity h
  rw [String.ofList_toList] at he
  have hread : PropertySet.read msg = .error (.unreadable (.entityDeclared d.name systemId publicId)) := by
    simp only [PropertySet.read]
    rw [he]
  refine ⟨⟨systemId, publicId, hread⟩, fun b => Binding.handleEvent_of_changes_nil ?_⟩
  simp only [Binding.handleEvent, Binding.changes, hread]

end Declarations

/-- No entity is ever expanded. The value of an entity that a text declares is read for its end
only: two texts that differ only in it are read alike, and give the same service description,
the same properties and the same binding, and the same element of an envelope. A text whose
reading takes in an entity's declaration while declarations are taken in is refused with the
entity's name, whatever follows: a description, an envelope, every request and response it
carries, and a notification fail with their error for forbidden XML, and the binding takes
nothing in. A reference to an entity other than the five predefined ones stops the reading of
content, and in an attribute's value is refused or dropped. -/
theorem entities_never_expanded :
    (∀ {pre r r' post : List Char} {q : Char}, (q = '"' ∨ q = '\'') →
      (∀ c ∈ r, isDocumentChar c = true ∧ c ≠ q) → (∀ c ∈ r', isDocumentChar c = true ∧ c ≠ q) →
      (Source.ofChars (pre ++ q :: r ++ q :: post)).ValueAt pre.length →
      Except.Rel ReadError.Alike Eq (Document.text (String.ofList (pre ++ q :: r ++ q :: post))).read
          (Document.text (String.ofList (pre ++ q :: r' ++ q :: post))).read ∧
        (Scpd.read (.text (String.ofList (pre ++ q :: r ++ q :: post)))).toOption =
          (Scpd.read (.text (String.ofList (pre ++ q :: r' ++ q :: post)))).toOption ∧
        ∀ msg msg' : Document, msg.lenientText = String.ofList (pre ++ q :: r ++ q :: post) →
          msg'.lenientText = String.ofList (pre ++ q :: r' ++ q :: post) →
          (PropertySet.read msg).toOption = (PropertySet.read msg').toOption ∧
            ∀ b : Binding, b.handleEvent msg = b.handleEvent msg') ∧
    (∀ {pre r r' post : List Char} {q : Char}, (q = '"' ∨ q = '\'') →
      (∀ c ∈ r, isDocumentChar c = true ∧ c ≠ q) → (∀ c ∈ r', isDocumentChar c = true ∧ c ≠ q) →
      (Source.ofChars (pre.dropWhile Soap.isMessagePadding ++ q :: r ++ q :: post)).ValueAt
        (pre.dropWhile Soap.isMessagePadding).length →
      ∀ msg msg' : Document, msg.lenientText = String.ofList (pre ++ q :: r ++ q :: post) →
        msg'.lenientText = String.ofList (pre ++ q :: r' ++ q :: post) →
        ∀ name, (Soap.findInEnvelope msg name).toOption = (Soap.findInEnvelope msg' name).toOption) ∧
    (∀ {l : List Char} {d : Declared}, (Source.ofChars l).DeclaresEntity d →
      ∃ systemId publicId,
        (Document.text (String.ofList l)).read = .error (.entityDeclared d.name systemId publicId)) ∧
    (∀ {t : String} {d : Declared},
      (Source.ofChars (Text.dropRightWhile Text.isDocumentPadding t).toList).DeclaresEntity d →
      ∃ systemId publicId,
        Scpd.read (.text t) = .error (.unreadable (.entityDeclared d.name systemId publicId))) ∧
    (∀ {msg : Document} {d : Declared},
      (Source.ofChars (Text.trimWhile Soap.isMessagePadding msg.lenientText).toList).DeclaresEntity d →
      ∃ systemId publicId,
        (∀ name, Soap.findInEnvelope msg name =
          .error (.unreadable (.entityDeclared d.name systemId publicId))) ∧
        (∀ a, Binding.parseRequest a msg =
          .error (.unreadableEnvelope (.unreadable (.entityDeclared d.name systemId publicId)))) ∧
        ∀ (b : Binding) a, b.parseResponse a msg =
          .error (.unreadableEnvelope (.unreadable (.entityDeclared d.name systemId publicId)))) ∧
    (∀ {msg : Document} {d : Declared},
      (Source.ofChars (Text.dropRightWhile Soap.isMessagePadding msg.lenientText).toList).DeclaresEntity d →
      (∃ systemId publicId,
        PropertySet.read msg = .error (.unreadable (.entityDeclared d.name systemId publicId))) ∧
        ∀ b : Binding, b.handleEvent msg = (b, [])) ∧
    (∀ {name : String}, predefinedEntity name = none →
      (∀ ctx isCdata acc i, referenceValue ctx isCdata acc i (.entity name) =
          .error (.undefinedEntity, ctx.undefinedAt) ∨
        referenceValue ctx isCdata acc i (.entity name) = .ok acc) ∧
      ∀ (s : Source) (dtd : Dtd) (fuel i next : Nat) (stack : List Frame) (scope : Scope),
        s.contentToken i = .token (.reference (.entity name)) next →
        s.content dtd (fuel + 1) i stack scope = s.fail .undefinedEntity i ∨
          s.content dtd (fuel + 1) i stack scope = s.fail (.unresolvedEntity ("&" ++ name ++ ";")) i) := by
  refine ⟨fun hq hr hr' hv => ⟨Document.read_entityValue_alike hq hr hr' hv,
      Scpd.read_entityValue hq hr hr' hv, fun msg msg' hm hm' => ?_⟩,
    fun hq hr hr' hv msg msg' hm hm' => Soap.findInEnvelope_entityValue hq hr hr' hm hm' hv,
    Document.read_of_declaresEntity, Scpd.read_of_declaresEntity,
    Soap.findInEnvelope_of_declaresEntity, PropertySet.read_of_declaresEntity,
    fun hn => ⟨Source.referenceValue_undeclared hn, fun s _ _ _ _ _ _ hk => s.content_undeclared hk hn⟩⟩
  have hprops := PropertySet.read_entityValue hq hr hr' hm hm' hv
  exact ⟨hprops, Binding.handleEvent_of_toOption hprops⟩

def entityNotificationHead : List Char :=
  "<?xml version=\"1.0\"?><!DOCTYPE e:propertyset [<!ENTITY a ".toList

def entityNotificationTail : List Char :=
  (">]><e:propertyset xmlns:e=\"urn:schemas-upnp-org:event-1-0\"><e:property><A>&a;</A>" ++
    "</e:property></e:propertyset>").toList

set_option maxRecDepth 20000 in
/-- The notification whose body declares `a` with the value `1`: its reading comes to the value,
and reads the same with the value `2`; it takes the declaration in, so the body is refused as
forbidden and the binding takes nothing in. -/
theorem entity_notification_refused :
    (Source.ofChars (entityNotificationHead ++ '"' :: ['1'] ++ '"' :: entityNotificationTail)).ValueAt
        entityNotificationHead.length ∧
      Except.Rel ReadError.Alike Eq
        (Document.text (String.ofList
          (entityNotificationHead ++ '"' :: ['1'] ++ '"' :: entityNotificationTail))).read
        (Document.text (String.ofList
          (entityNotificationHead ++ '"' :: ['2'] ++ '"' :: entityNotificationTail))).read ∧
      (Source.ofChars (Text.dropRightWhile Soap.isMessagePadding (Document.text (String.ofList
          (entityNotificationHead ++ '"' :: ['1'] ++ '"' :: entityNotificationTail))).lenientText).toList).DeclaresEntity
        ⟨"a", none, none⟩ ∧
      (∃ systemId publicId, PropertySet.read (.text (String.ofList
          (entityNotificationHead ++ '"' :: ['1'] ++ '"' :: entityNotificationTail))) =
        .error (.unreadable (.entityDeclared "a" systemId publicId))) ∧
      ∀ b : Binding, b.handleEvent (.text (String.ofList
          (entityNotificationHead ++ '"' :: ['1'] ++ '"' :: entityNotificationTail))) = (b, []) := by
  -- nine steps read the document type declaration up to the entity's name
  have hsteps : (Source.ofChars (entityNotificationHead ++ '"' :: ['1'] ++ '"' ::
      entityNotificationTail)).readSteps 9 = some ⟨Dtd.empty false, some ⟨"a", none, none⟩,
        .entityAfterName false, entityNotificationHead.length⟩ := by
    with_unfolding_all rfl
  have hreads := Source.ReadsTo.of_readSteps hsteps
  have hvalue : (Source.ofChars (entityNotificationHead ++ '"' :: ['1'] ++ '"' ::
      entityNotificationTail)).ValueAt entityNotificationHead.length := ⟨_, hreads, rfl, false, rfl⟩
  have hone : ∀ c ∈ ['1'], isDocumentChar c = true ∧ c ≠ '"' :=
    List.forall_mem_singleton.mpr (by decide)
  have htwo : ∀ c ∈ ['2'], isDocumentChar c = true ∧ c ≠ '"' :=
    List.forall_mem_singleton.mpr (by decide)
  -- the body ends with `>`, so nothing is cut from its end
  have htail : (entityNotificationTail.reverse.dropWhile Soap.isMessagePadding).reverse =
      entityNotificationTail := by
    decide +kernel
  have hdeclares : (Source.ofChars (Text.dropRightWhile Soap.isMessagePadding (Document.text
      (String.ofList (entityNotificationHead ++ '"' :: ['1'] ++ '"' ::
        entityNotificationTail))).lenientText).toList).DeclaresEntity ⟨"a", none, none⟩ := by
    have hquote : Soap.isMessagePadding '"' = false := rfl
    rw [Document.lenientText, Text.dropRightWhile_ofList hquote, htail, String.toList_ofList]
    exact ⟨_, hreads, rfl, rfl, _, _, _, _, by with_unfolding_all rfl, rfl, .inl rfl⟩
  exact ⟨hvalue, (entities_never_expanded.1 (.inl rfl) hone htwo hvalue).1, hdeclares,
    entities_never_expanded.2.2.2.2.2.1 hdeclares⟩

end UpnpBinding
