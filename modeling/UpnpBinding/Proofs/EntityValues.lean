import UpnpBinding.Proofs.PrologWalk
import UpnpBinding.Proofs.XmlScan
/-!
Entities are never expanded. The value of an entity being declared is scanned for its closing
quote and nothing else: two texts that differ only in such a value are read alike, to the same
element or to the same fault at another place. A reading that takes in an entity's declaration,
by its value or by the end of an external one, while declarations are still taken in, refuses
the document with the entity's name, whatever follows. A reference to an entity other than the
five predefined ones stops the reading of content, and in an attribute's value is refused or
dropped.
-/
namespace UpnpBinding.Xml

namespace Source

variable {s t : Source} {i j n : Nat} {d : Int} {q : Char} {k : PrologToken} {next : Nat}

/-- Reading the prolog of `s` stands at `n`, right after the name of an entity being declared:
where the entity's value starts, if it has one. -/
def ValueAt (s : Source) (n : Nat) : Prop :=
  ∃ st, s.ReadsTo st ∧ st.pos = n ∧ ∃ param, st.stage = .entityAfterName param

theorem literalEnd_literal (h : s.literalEnd i q = .token k next) : k = .literal := by
  fun_induction s.literalEnd i q <;> grind [stop_ne_token]

theorem literalEnd_over {w : List Char} (hw : s.Reads i w)
    (hc : ∀ c ∈ w, isDocumentChar c = true ∧ c ≠ q) :
    s.literalEnd i q = s.literalEnd (i + w.length) q := by
  induction w generalizing i with
  | nil => rfl
  | cons c w ih =>
    obtain ⟨⟨hi, hci⟩, hrest⟩ := reads_cons.mp hw
    obtain ⟨hdoc, hne⟩ := hc c List.mem_cons_self
    rw [literalEnd, dif_pos hi]
    simp only [hci, hdoc, Bool.not_true, Bool.false_eq_true, if_false, beq_iff_eq, hne]
    rw [ih hrest fun c' hc' => hc c' (List.mem_cons_of_mem c hc'), List.length_cons]
    congr 1
    omega

theorem prologToken_quote (hp : s.peek i = .char q) (hq : q = '"' ∨ q = '\'') :
    s.prologToken i = s.literalEnd (i + 1) q := by
  unfold prologToken
  rw [hp]
  rcases hq with rfl | rfl <;> rfl

theorem prolog_entityValue_moved (h : s.SameFrom i t j) (hd : (j : Int) = i + d)
    {n n' fuel fuel' : Nat} (hx : s.prologToken n = s.literalEnd i q)
    (hy : t.prologToken n' = t.literalEnd j q) (hf : s.Covers fuel n) (hf' : t.Covers fuel' n')
    (param : Bool) (dtd : Dtd) (pending : Option Declared) :
    Except.Rel ReadError.Alike Eq (s.prolog dtd pending (.entityAfterName param) fuel n)
      (t.prolog dtd pending (.entityAfterName param) fuel' n') := by
  obtain ⟨f, rfl⟩ := hf.exists_succ
  obtain ⟨f', rfl⟩ := hf'.exists_succ
  have hm := literalEnd_moved h hd q
  generalize hxx : s.literalEnd i q = x at hm
  generalize hyy : t.literalEnd j q = y at hm
  rw [hxx] at hx
  rw [hyy] at hy
  cases hm with
  | token hk hnext =>
    rename_i k k' next next'
    subst hk
    obtain rfl := literalEnd_literal hxx
    have hpast := lt_of_prologToken hx (by nofun)
    have hpast' := lt_of_prologToken hy (by nofun)
    -- the value's step reads no character of the value
    rw [prolog_of_step hx rfl (by nofun), prolog_of_step hy rfl (by nofun)]
    have hsame : s.declare dtd pending (n + 1) (next - 1) .entityValue =
        t.declare dtd pending (n' + 1) (next' - 1) .entityValue := rfl
    rw [hsame]
    refine (Except.Rel.refl_alike _).bind fun r r' _ hr => ?_
    subst hr
    have hfrom : i ≤ next := by
      have := Scanned.EndsAt.of_eq_token (literalEnd_past (s := s) q (Nat.le_refl i)) hxx
      omega
    exact prolog_moved (h.at_ hd hfrom hnext) hnext (hf.next hpast (le_size_of_prologToken hx))
      (hf'.next hpast' (le_size_of_prologToken hy)) _ _ _
  | invalid =>
    simp only [prolog, hx, hy]
    rfl
  | unclosed =>
    simp only [prolog, hx, hy]
    rfl
  | cutChar =>
    simp only [prolog, hx, hy]
    rfl
  | finished =>
    simp only [prolog, hx, hy]
    rfl

theorem ofChars_reads (u w : List Char) : (ofChars (u ++ w)).Reads u.length w :=
  reads_iff.mpr ⟨[], by simp [ofChars]⟩

theorem sameFrom_ofChars (u u' w : List Char) :
    (ofChars (u ++ w)).SameFrom u.length (ofChars (u' ++ w)) u'.length :=
  ⟨rfl, fun k => by
    simp only [ofChars, List.getElem?_toArray]
    rw [List.getElem?_append_right (by omega), List.getElem?_append_right (by omega)]
    simp⟩

theorem ofChars_value_reads (pre u post : List Char) (q : Char) :
    (ofChars (pre ++ q :: u ++ q :: post)).Reads pre.length (q :: (u ++ q :: post)) := by
  rw [List.append_assoc]
  exact ofChars_reads pre _

theorem sameBelow_ofChars (u w w' : List Char) :
    (ofChars (u ++ w)).SameBelow (ofChars (u ++ w')) u.length :=
  ⟨by simp [ofChars], by simp [ofChars], fun k hk => by simp [ofChars, List.getElem?_append_left hk]⟩

theorem isDocumentChar_quote (hq : q = '"' ∨ q = '\'') : isDocumentChar q = true := by
  rcases hq with rfl | rfl <;> rfl

section Values

variable {pre r r' post : List Char} {st : PrologState}

theorem ReadsTo.below_value (h : s.SameBelow t (n + 1)) (hr : s.ReadsTo st) (hpos : st.pos = n)
    {param : Bool} (hstage : st.stage = .entityAfterName param) (hp : s.peek n = .char q)
    (hq : q = '"' ∨ q = '\'') : t.ReadsTo st := by
  have hla : s.peek st.pos = .char ']' ∨ s.peek st.pos = .char '%' → st.pos + 1 < n + 1 := by
    rw [hpos, hp]
    rintro (hb | hb) <;> rcases hq with rfl | rfl <;> exact absurd (Peek.char.inj hb) (by decide)
  -- the prolog starts at the opening stage, not at an entity's value
  have hmoved : ∀ st₀, s.prologStart = .ok st₀ → st₀.pos < st.pos := by
    intro st₀ hs
    refine hr.start_lt hs fun he => ?_
    have hopen := (prologStart_opening hs).1
    rw [he, hstage] at hopen
    cases hopen
  exact hr.below h (by omega) hla hmoved

theorem ValueAt.below (h : s.SameBelow t (n + 1)) (hv : s.ValueAt n) (hp : s.peek n = .char q)
    (hq : q = '"' ∨ q = '\'') : t.ValueAt n := by
  obtain ⟨st, hr, hpos, param, hstage⟩ := hv
  exact ⟨st, hr.below_value h hpos hstage hp hq, hpos, param, hstage⟩

theorem notNulAt_of_value {u : List Char}
    (hr : (ofChars (pre ++ q :: u ++ q :: post)).ReadsTo st) (hpos : st.pos = pre.length)
    (hq : isDocumentChar q = true) (hu : ∀ c ∈ u, isDocumentChar c = true ∧ c ≠ q) {p : Nat}
    (hp : p ≤ 1) : (ofChars (pre ++ q :: u ++ q :: post)).NotNulAt p := by
  rcases Nat.lt_or_ge p pre.length with h | h
  · exact hr.notNulAt hp (hpos ▸ h)
  · -- past the reading stand the opening quote and the value's first character, or the closing quote
    have hread := ofChars_value_reads pre u post q
    rcases (by omega : p = pre.length ∨ p = pre.length + 1) with rfl | rfl
    · exact notNulAt_of_peek (peek_of_reads hread hq)
    · have hnext := (reads_cons.mp hread).2
      cases u with
      | nil => exact notNulAt_of_peek (peek_of_reads hnext hq)
      | cons c u => exact notNulAt_of_peek (peek_of_reads hnext (hu c List.mem_cons_self).1)

theorem sameFrom_value (pre r r' post : List Char) (q : Char) :
    (ofChars (pre ++ q :: r ++ q :: post)).SameFrom (pre.length + 1 + r.length)
      (ofChars (pre ++ q :: r' ++ q :: post)) (pre.length + 1 + r'.length) := by
  have h := sameFrom_ofChars (pre ++ q :: r) (pre ++ q :: r') (q :: post)
  have hlen : ∀ u : List Char, (pre ++ q :: u).length = pre.length + 1 + u.length := fun u => by
    simp only [List.length_append, List.length_cons]
    omega
  rwa [hlen, hlen] at h

theorem sameBelow_value (pre r r' post post' : List Char) (q : Char) :
    (ofChars (pre ++ q :: r ++ q :: post)).SameBelow (ofChars (pre ++ q :: r' ++ q :: post'))
      (pre.length + 1) := by
  have h := sameBelow_ofChars (pre ++ [q]) (r ++ q :: post) (r' ++ q :: post')
  simpa using h

theorem ValueAt.replace {post' : List Char} (hq : q = '"' ∨ q = '\'')
    (hv : (ofChars (pre ++ q :: r ++ q :: post)).ValueAt pre.length) :
    (ofChars (pre ++ q :: r' ++ q :: post')).ValueAt pre.length :=
  hv.below (sameBelow_value pre r r' post post' q)
    (peek_of_reads (ofChars_value_reads pre r post q) (isDocumentChar_quote hq)) hq

theorem prologToken_value (hq : q = '"' ∨ q = '\'') (hr : ∀ c ∈ r, isDocumentChar c = true ∧ c ≠ q) :
    (ofChars (pre ++ q :: r ++ q :: post)).prologToken pre.length =
      (ofChars (pre ++ q :: r ++ q :: post)).literalEnd (pre.length + 1 + r.length) q := by
  have hread := ofChars_value_reads pre r post q
  rw [prologToken_quote (peek_of_reads hread (isDocumentChar_quote hq)) hq]
  exact literalEnd_over (reads_append.mp (reads_cons.mp hread).2).1 hr

end Values

end Source

namespace Document

theorem read_entityValue_alike {pre r r' post : List Char} {q : Char} (hq : q = '"' ∨ q = '\'')
    (hr : ∀ c ∈ r, isDocumentChar c = true ∧ c ≠ q) (hr' : ∀ c ∈ r', isDocumentChar c = true ∧ c ≠ q)
    (hv : (Source.ofChars (pre ++ q :: r ++ q :: post)).ValueAt pre.length) :
    Except.Rel ReadError.Alike Eq (Document.text (String.ofList (pre ++ q :: r ++ q :: post))).read
      (Document.text (String.ofList (pre ++ q :: r' ++ q :: post))).read := by
  have hqdoc := Source.isDocumentChar_quote hq
  have hpeek : (Source.ofChars (pre ++ q :: r ++ q :: post)).peek pre.length = .char q :=
    Source.peek_of_reads (Source.ofChars_value_reads pre r post q) hqdoc
  -- the other text agrees up to the opening quote, so its reading comes to the same value
  have hsame := Source.sameBelow_value pre r r' post post q
  obtain ⟨st, hrd, hpos, param, hstage⟩ := hv
  have hrd' := hrd.below_value hsame hpos hstage hpeek hq
  have hlen : ∀ u : List Char, pre.length ≤ (pre ++ q :: u ++ q :: post).length := fun u => by simp
  -- both texts are read as their characters, on from the value's opening quote
  obtain ⟨fuel, hf, hread⟩ := read_of_readsTo hrd (hpos ▸ hlen r)
    (Source.notNulAt_of_value hrd hpos hqdoc hr (Nat.zero_le 1))
    (Source.notNulAt_of_value hrd hpos hqdoc hr (Nat.le_refl 1))
  obtain ⟨fuel', hf', hread'⟩ := read_of_readsTo hrd' (hpos ▸ hlen r')
    (Source.notNulAt_of_value hrd' hpos hqdoc hr' (Nat.zero_le 1))
    (Source.notNulAt_of_value hrd' hpos hqdoc hr' (Nat.le_refl 1))
  rw [hread, hread', hstage, hpos]
  rw [hpos] at hf hf'
  exact Source.prolog_entityValue_moved (Source.sameFrom_value pre r r' post q)
    (d := (r'.length : Int) - r.length) (by omega) (Source.prologToken_value hq hr)
    (Source.prologToken_value hq hr') hf hf' param st.dtd st.pending

end Document

namespace Source

variable {s : Source} {d : Declared}

/-- Reading `s` comes to take in the declaration of the entity `d`: it reaches a state where
declarations are still taken in and `d` is being declared, and the token there ends `d`'s value
or its declaration. -/
def DeclaresEntity (s : Source) (d : Declared) : Prop :=
  ∃ st : PrologState, s.ReadsTo st ∧ st.pending = some d ∧ st.dtd.declaring = true ∧
    ∃ k next stage' step, s.prologToken st.pos = .token k next ∧
      st.stage.next k = some (stage', step) ∧ (step = .entityValue ∨ step = .entityDone)

theorem declare_entity {dtd : Dtd} {a b : Nat} {step : Step} (hd : dtd.declaring = true)
    (hstep : step = .entityValue ∨ step = .entityDone) :
    ∃ systemId publicId,
      s.declare dtd (some d) a b step = .error (.entityDeclared d.name systemId publicId) := by
  rcases hstep with rfl | rfl
  · exact ⟨none, none, by simp [declare, hd]⟩
  · exact ⟨d.systemId, d.publicId, by simp [declare, hd]⟩

theorem referenceValue_undeclared {name : String} (hn : predefinedEntity name = none)
    (ctx : ValueContext) (isCdata : Bool) (acc : String) (i : Nat) :
    referenceValue ctx isCdata acc i (.entity name) = .error (.undefinedEntity, ctx.undefinedAt) ∨
      referenceValue ctx isCdata acc i (.entity name) = .ok acc := by
  simp only [referenceValue, hn]
  split
  · exact .inl rfl
  · exact .inr rfl

theorem content_undeclared {i next fuel : Nat} {name : String} {dtd : Dtd} {stack : List Frame}
    {scope : Scope} (hk : s.contentToken i = .token (.reference (.entity name)) next)
    (hn : predefinedEntity name = none) :
    s.content dtd (fuel + 1) i stack scope = s.fail .undefinedEntity i ∨
      s.content dtd (fuel + 1) i stack scope = s.fail (.unresolvedEntity ("&" ++ name ++ ";")) i := by
  simp only [content, hk, hn]
  split
  · exact .inl rfl
  · exact .inr rfl

end Source

namespace Document

theorem read_of_declaresEntity {l : List Char} {d : Declared}
    (h : (Source.ofChars l).DeclaresEntity d) :
    ∃ systemId publicId,
      (Document.text (String.ofList l)).read = .error (.entityDeclared d.name systemId publicId) := by
  obtain ⟨st, hrd, hpend, hdecl, k, next, stage', step, hk, hst, hstep⟩ := h
  have hroot : step ≠ .rootStart := by
    rcases hstep with rfl | rfl <;> nofun
  have hpast := Source.lt_of_prologToken hk (Source.PrologStep.not_instanceStart hst hroot)
  have hwithin := Source.le_size_of_prologToken hk
  have hsize : (Source.ofChars l).chars.size = l.length := List.size_toArray
  -- the reading has left the start, where no entity is being declared
  have hmoved : 0 < st.pos := by
    obtain ⟨st₀, hs, -⟩ := id hrd
    refine Nat.lt_of_le_of_lt (Nat.zero_le _) (hrd.start_lt hs fun he => ?_)
    have hnone := (Source.prologStart_opening hs).2
    rw [he, hpend] at hnone
    cases hnone
  have h₁ : (Source.ofChars l).NotNulAt 1 := by
    rcases Nat.lt_or_ge 1 st.pos with h | h
    · exact hrd.notNulAt (Nat.le_refl 1) h
    · obtain ⟨c, hc⟩ := Source.prologToken_first hk
      rw [show st.pos = 1 by omega] at hc
      exact Source.notNulAt_of_peek hc
  obtain ⟨fuel, hf, hread⟩ := read_of_readsTo hrd (by omega)
    (hrd.notNulAt (Nat.zero_le 1) hmoved) h₁
  obtain ⟨f, rfl⟩ := hf.exists_succ
  obtain ⟨systemId, publicId, he⟩ := Source.declare_entity (s := Source.ofChars l)
    (a := st.pos + 1) (b := next - 1) hdecl hstep
  refine ⟨systemId, publicId, ?_⟩
  rw [hread, Source.prolog_of_step hk hst hroot, hpend, he]
  rfl

end Document

end UpnpBinding.Xml
