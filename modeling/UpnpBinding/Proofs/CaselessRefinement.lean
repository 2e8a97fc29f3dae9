import UpnpBinding.Proofs.Notification
import Mathlib.Data.Finset.Card
/-!
The case-insensitive dictionary against the dictionary it stands for. That dictionary keeps its
entries in insertion order, no two of whose keys lower alike. Setting a key replaces the value in
place when the entry for the key has exactly that key, and otherwise removes that entry, if there
is one, and puts the new one last; removing and looking up go by the lowered key, and comparing
goes by the entries under lowered keys.

A case-insensitive dictionary keeps the entries and, beside them, the key that stands for each
lowered key. Every operation keeps the two in step with the dictionary it stands for
(`Tracks`), so the answers to any run of operations are those of that dictionary. The one way
out of step is the start: a dictionary made from entries takes them all as they are, so two keys
given alike but for case stay two entries. Main statement: `ofList_refines_iff`, the dictionary
made from entries answers every run as the dictionary they set up does exactly when no two of
their keys differ only in case.
-/
namespace UpnpBinding

namespace CaselessDict

def CaseDistinct (es : List (String × Value)) : Prop :=
  ∀ a ∈ es, ∀ b ∈ es, Text.lower a.1 = Text.lower b.1 → a.1 = b.1

def lowerKeys (es : List (String × Value)) : List String := es.map (Text.lower ·.1)

@[simp] theorem lowerKeys_nil : lowerKeys [] = [] := rfl

@[simp] theorem lowerKeys_cons (e : String × Value) (es : List (String × Value)) :
    lowerKeys (e :: es) = Text.lower e.1 :: lowerKeys es := rfl

@[simp] theorem lowerKeys_append (es es' : List (String × Value)) :
    lowerKeys (es ++ es') = lowerKeys es ++ lowerKeys es' :=
  List.map_append

def entryFor? (es : List (String × Value)) (k : String) : Option (String × Value) :=
  es.find? (fun e => Text.lower e.1 == Text.lower k)

def withoutEntryFor (es : List (String × Value)) (k : String) : List (String × Value) :=
  es.filter (fun e => Text.lower e.1 != Text.lower k)

/-- Set `k` to `v`: in place when the entry for `k` has exactly the key `k`; last, in place of
that entry, when its key differs in case; last when there is none. -/
def setEntry (es : List (String × Value)) (k : String) (v : Value) : List (String × Value) :=
  match entryFor? es k with
  | some (s, _) =>
    if s = k then es.map (fun e => if e.1 = k then (k, v) else e)
    else withoutEntryFor es k ++ [(k, v)]
  | none => es ++ [(k, v)]

section Entries

variable {es : List (String × Value)} {k : String}

theorem entryFor?_eq_none : entryFor? es k = none ↔ Text.lower k ∉ lowerKeys es := by
  simp [entryFor?, lowerKeys, List.find?_eq_none]

theorem lowerKeys_withoutEntryFor (es : List (String × Value)) (k : String) :
    lowerKeys (withoutEntryFor es k) = (lowerKeys es).filter (· != Text.lower k) := by
  simp [lowerKeys, withoutEntryFor, List.filter_map, Function.comp_def]

theorem lowerKeys_map_replace (es : List (String × Value)) (k : String) (v : Value) :
    lowerKeys (es.map fun e => if e.1 = k then (k, v) else e) = lowerKeys es := by
  unfold lowerKeys
  rw [List.map_map]
  exact List.map_congr_left fun e _ => by by_cases he : e.1 = k <;> simp [he]

theorem nodup_withoutEntryFor (h : (lowerKeys es).Nodup) : (lowerKeys (withoutEntryFor es k)).Nodup := by
  rw [lowerKeys_withoutEntryFor]
  exact h.filter _

theorem nodup_append_entry (h : (lowerKeys es).Nodup) (hk : Text.lower k ∉ lowerKeys es)
    (v : Value) : (lowerKeys (es ++ [(k, v)])).Nodup := by
  rw [lowerKeys_append, List.nodup_append]
  refine ⟨h, List.nodup_singleton _, fun a ha b hb => ?_⟩
  rw [lowerKeys_cons, lowerKeys_nil, List.mem_singleton] at hb
  rintro rfl
  exact hk (hb ▸ ha)

theorem nodup_setEntry (h : (lowerKeys es).Nodup) (v : Value) : (lowerKeys (setEntry es k v)).Nodup := by
  unfold setEntry
  split
  · split
    · rwa [lowerKeys_map_replace]
    · refine nodup_append_entry (nodup_withoutEntryFor h) (fun hk => ?_) v
      rw [lowerKeys_withoutEntryFor] at hk
      simp at hk
  · rename_i hnone
    exact nodup_append_entry h (entryFor?_eq_none.mp hnone) v

end Entries

/-- The dictionary a case-insensitive dictionary stands for: entries in insertion order, no two of
whose keys lower alike. -/
structure Reference where
  entries : List (String × Value)
  distinct : (lowerKeys entries).Nodup

namespace Reference

def empty : Reference := ⟨[], List.nodup_nil⟩

def set (r : Reference) (k : String) (v : Value) : Reference :=
  ⟨setEntry r.entries k v, nodup_setEntry r.distinct v⟩

def erase (r : Reference) (k : String) : Except String Reference :=
  match entryFor? r.entries k with
  | some _ => .ok ⟨withoutEntryFor r.entries k, nodup_withoutEntryFor r.distinct⟩
  | none => .error (Text.lower k)

def get (r : Reference) (k : String) : Except String Value :=
  match entryFor? r.entries k with
  | some e => .ok e.2
  | none => .error (Text.lower k)

def contains (r : Reference) (k : String) : Bool := (entryFor? r.entries k).isSome

def equalsEntries (r : Reference) (other : List (String × Value)) : Bool :=
  (Value.dict (r.entries.map fun e => (Text.lower e.1, e.2))).equal (.dict (lowered other))

def ofList (es : List (String × Value)) : Reference :=
  es.foldl (fun r e => r.set e.1 e.2) empty

end Reference

/-- An operation on a dictionary: setting, removing and looking up a key, asking whether it is
there, counting the entries, listing the keys, and comparing with plain entries. -/
inductive Op where
  | set (k : String) (v : Value)
  | erase (k : String)
  | get (k : String)
  | contains (k : String)
  | size
  | keys
  | equals (other : List (String × Value))

/-- What an operation answers: nothing past having been done, a key that has no entry, a value,
a truth value, a count or the keys. -/
inductive Answer where
  | done
  | missing (key : String)
  | value (v : Value)
  | truth (b : Bool)
  | count (n : Nat)
  | names (keys : List String)

structure Ops (σ : Type) where
  set : σ → String → Value → σ
  erase : σ → String → Except String σ
  get : σ → String → Except String Value
  contains : σ → String → Bool
  size : σ → Nat
  keys : σ → List String
  equals : σ → List (String × Value) → Bool

namespace Ops

variable {σ τ : Type}

/-- One operation: the state after it and its answer. A removal that finds no entry changes
nothing. -/
def step (o : Ops σ) (s : σ) : Op → σ × Answer
  | .set k v => (o.set s k v, .done)
  | .erase k =>
    match o.erase s k with
    | .ok s' => (s', .done)
    | .error key => (s, .missing key)
  | .get k =>
    (s, match o.get s k with
      | .ok v => .value v
      | .error key => .missing key)
  | .contains k => (s, .truth (o.contains s k))
  | .size => (s, .count (o.size s))
  | .keys => (s, .names (o.keys s))
  | .equals other => (s, .truth (o.equals s other))

def answers (o : Ops σ) (s : σ) : List Op → List Answer
  | [] => []
  | op :: ops => (o.step s op).2 :: o.answers (o.step s op).1 ops

/-- The relation `R` between states of two kinds of dictionary is kept by every operation, which
answers alike on both. -/
structure Simulation (o : Ops σ) (o' : Ops τ) (R : σ → τ → Prop) : Prop where
  set : ∀ s t k v, R s t → R (o.set s k v) (o'.set t k v)
  erase : ∀ s t k, R s t →
    (∃ key, o.erase s k = .error key ∧ o'.erase t k = .error key) ∨
      ∃ s' t', o.erase s k = .ok s' ∧ o'.erase t k = .ok t' ∧ R s' t'
  get : ∀ s t k, R s t → o.get s k = o'.get t k
  contains : ∀ s t k, R s t → o.contains s k = o'.contains t k
  size : ∀ s t, R s t → o.size s = o'.size t
  keys : ∀ s t, R s t → o.keys s = o'.keys t
  equals : ∀ s t other, R s t → o.equals s other = o'.equals t other

variable {o : Ops σ} {o' : Ops τ} {R : σ → τ → Prop}

theorem Simulation.step (sim : Simulation o o' R) {s : σ} {t : τ} (h : R s t) (op : Op) :
    R (o.step s op).1 (o'.step t op).1 ∧ (o.step s op).2 = (o'.step t op).2 := by
  cases op with
  | set k v => exact ⟨sim.set s t k v h, rfl⟩
  | erase k =>
    rcases sim.erase s t k h with ⟨key, he, he'⟩ | ⟨s', t', he, he', hr⟩
    · simp [Ops.step, he, he', h]
    · simp [Ops.step, he, he', hr]
  | get k => simp [Ops.step, sim.get s t k h, h]
  | contains k => simp [Ops.step, sim.contains s t k h, h]
  | size => simp [Ops.step, sim.size s t h, h]
  | keys => simp [Ops.step, sim.keys s t h, h]
  | equals other => simp [Ops.step, sim.equals s t other h, h]

theorem Simulation.answers_eq (sim : Simulation o o' R) :
    ∀ {s : σ} {t : τ}, R s t → ∀ ops, o.answers s ops = o'.answers t ops
  | _, _, _, [] => rfl
  | _, _, h, op :: ops => by
    obtain ⟨hr, ha⟩ := sim.step h op
    rw [answers, answers, ha, sim.answers_eq hr ops]

end Ops

theorem foldl_putBy_of_nodup {α : Type} {key : α → String} :
    ∀ {xs : List α}, (xs.map key).Nodup → xs.foldl (putBy key) [] = xs := by
  intro xs
  induction xs using List.reverseRecOn with
  | nil => exact fun _ => rfl
  | append_singleton xs x ih =>
    intro h
    rw [List.map_append, List.nodup_append] at h
    have hx : key x ∉ xs.map key := fun hm => h.2.2 _ hm _ (List.mem_singleton_self _) rfl
    rw [List.foldl_append, List.foldl_cons, List.foldl_nil, ih h.1]
    unfold putBy
    rw [if_neg (by simpa using hx)]

section Distinct

variable {es : List (String × Value)} (h : (lowerKeys es).Nodup)
include h

theorem eq_of_lower_eq {a b : String × Value} (ha : a ∈ es) (hb : b ∈ es)
    (hab : Text.lower a.1 = Text.lower b.1) : a = b := by
  have hmap : (es.map fun e => Text.lower e.1).Nodup := h
  exact List.inj_on_of_nodup_map hmap ha hb hab

theorem find?_key_eq {e : String × Value} (he : e ∈ es) : es.find? (·.1 == e.1) = some e := by
  have hkeys : (es.map Prod.fst).Nodup := by
    refine List.Nodup.of_map Text.lower ?_
    rwa [List.map_map]
  exact find?_key_of_nodup hkeys he

theorem filter_key_ne {k s : String} {w : Value} (hs : entryFor? es k = some (s, w)) :
    es.filter (·.1 != s) = withoutEntryFor es k := by
  have hmem : (s, w) ∈ es := List.mem_of_find?_eq_some hs
  have hlow : Text.lower s = Text.lower k := by simpa using List.find?_some hs
  refine List.filter_congr fun e he => ?_
  -- the only entry that lowers as `k` does is the one with key `s`
  by_cases hes : e.1 = s
  · simp [hes, hlow]
  · have hne : Text.lower e.1 ≠ Text.lower k := fun hl =>
      hes (congrArg Prod.fst (eq_of_lower_eq h he hmem (hl.trans hlow.symm)))
    rw [bne_iff_ne.mpr hes, bne_iff_ne.mpr hne]

theorem lowered_eq_map : lowered es = es.map fun e => (Text.lower e.1, e.2) := by
  have hfold : lowered es = (es.map fun e => (Text.lower e.1, e.2)).foldl (putBy Prod.fst) [] := by
    rw [List.foldl_map]
    rfl
  rw [hfold, foldl_putBy_of_nodup]
  rwa [List.map_map]

end Distinct

section Entries

variable {es : List (String × Value)} {k k' : String}

theorem entryFor?_append (es' : List (String × Value)) :
    entryFor? (es ++ es') k' = (entryFor? es k').or (entryFor? es' k') :=
  List.find?_append

theorem entryFor?_singleton (v : Value) :
    entryFor? [(k, v)] k' = if Text.lower k = Text.lower k' then some (k, v) else none := by
  by_cases hk : Text.lower k = Text.lower k' <;> simp [entryFor?, hk]

theorem entryFor?_withoutEntryFor :
    entryFor? (withoutEntryFor es k) k' =
      if Text.lower k' = Text.lower k then none else entryFor? es k' := by
  unfold entryFor? withoutEntryFor
  rw [List.find?_filter]
  split
  · rename_i hk
    refine List.find?_eq_none.mpr fun e _ => ?_
    simp [hk]
  · rename_i hk
    refine congrArg (fun p => List.find? p es) (funext fun e => ?_)
    by_cases he : Text.lower e.1 = Text.lower k' <;> simp [he, hk]

theorem entryFor?_map_replace (v : Value) :
    entryFor? (es.map fun e => if e.1 = k then (k, v) else e) k' =
      (entryFor? es k').map fun e => if e.1 = k then (k, v) else e := by
  unfold entryFor?
  rw [List.find?_map]
  -- replacing keeps every key's lowered form, so the search tests each entry as before
  refine congrArg (fun p => Option.map _ (List.find? p es)) (funext fun e => ?_)
  by_cases he : e.1 = k <;> simp [he]

theorem entryFor?_setEntry (v : Value) :
    entryFor? (setEntry es k v) k' =
      if Text.lower k = Text.lower k' then some (k, v) else entryFor? es k' := by
  unfold setEntry
  split
  · rename_i s w hs
    split
    · -- in place: the entry for `k` is the one replaced
      rename_i hsk
      subst hsk
      rw [entryFor?_map_replace]
      by_cases hk : Text.lower s = Text.lower k'
      · have hfor : entryFor? es k' = some (s, w) := by rw [← hs]; unfold entryFor?; rw [hk]
        simp [hfor, hk]
      · rw [if_neg hk]
        cases he : entryFor? es k' with
        | none => rfl
        | some e =>
          have hel : Text.lower e.1 = Text.lower k' := by simpa using List.find?_some he
          have hes : e.1 ≠ s := fun hes => hk (hes ▸ hel)
          simp [hes]
    · rw [entryFor?_append, entryFor?_withoutEntryFor, entryFor?_singleton]
      by_cases hk : Text.lower k = Text.lower k'
      · simp [hk]
      · rw [if_neg (Ne.symm hk), if_neg hk, if_neg hk]
        cases entryFor? es k' <;> rfl
  · rename_i hnone
    rw [entryFor?_append, entryFor?_singleton]
    by_cases hk : Text.lower k = Text.lower k'
    · have hfor : entryFor? es k' = none := by rw [← hnone]; unfold entryFor?; rw [hk]
      simp [hfor, hk]
    · rw [if_neg hk, if_neg hk]
      cases entryFor? es k' <;> rfl

end Entries

def ops : Ops CaselessDict := ⟨set, erase, get, contains, size, keys, equalsEntries⟩

def Reference.ops : Ops Reference :=
  ⟨Reference.set, Reference.erase, Reference.get, Reference.contains, (·.entries.length),
    (·.entries.map (·.1)), Reference.equalsEntries⟩

/-- The dictionary `d` holds the entries of `r`, and for every key the key that stands for it in
`d` is the key of `r`'s entry for it. -/
structure Tracks (d : CaselessDict) (r : Reference) : Prop where
  entries : d.entries = r.entries
  spelling : ∀ k, d.spelling? k = (entryFor? r.entries k).map Prod.fst

section Tracks

variable {d : CaselessDict} {r : Reference}

theorem Tracks.get (ht : Tracks d r) (k : String) : d.get k = r.get k := by
  unfold CaselessDict.get Reference.get
  rw [ht.spelling k]
  cases hr : entryFor? r.entries k with
  | none => rfl
  | some e =>
    have hlook : Value.lookupIn d.entries e.1 = some e.2 := by
      rw [Value.lookupIn, ht.entries, find?_key_eq r.distinct (List.mem_of_find?_eq_some hr)]
      rfl
    simp [hlook]

theorem Tracks.contains (ht : Tracks d r) (k : String) : d.contains k = r.contains k := by
  unfold CaselessDict.contains Reference.contains
  rw [ht.get, Reference.get]
  cases entryFor? r.entries k <;> rfl

theorem Tracks.equalsEntries (ht : Tracks d r) (other : List (String × Value)) :
    d.equalsEntries other = r.equalsEntries other := by
  unfold CaselessDict.equalsEntries Reference.equalsEntries lowerEntries
  rw [ht.entries, lowered_eq_map r.distinct]

theorem Tracks.set (ht : Tracks d r) (k : String) (v : Value) : Tracks (d.set k v) (r.set k v) := by
  constructor
  · -- the entries: the spelling of `k` in `d` is the key of `r`'s entry for it
    unfold CaselessDict.set Reference.set setEntry
    simp only [ht.spelling k, ht.entries]
    cases hr : entryFor? r.entries k with
    | none =>
      have hany : r.entries.any (·.1 == k) = false := by
        refine List.any_eq_false.mpr fun e he hek => ?_
        have hlow : Text.lower e.1 = Text.lower k := by rw [beq_iff_eq.mp hek]
        exact List.find?_eq_none.mp hr e he (by simp [hlow])
      simp [putEntry, hany]
    | some e =>
      obtain ⟨s, w⟩ := e
      by_cases hsk : s = k
      · subst hsk
        have hany : r.entries.any (·.1 == s) = true :=
          List.any_eq_true.mpr ⟨(s, w), List.mem_of_find?_eq_some hr, by simp⟩
        simp [putEntry, hany]
      · have hany : (withoutEntryFor r.entries k).any (·.1 == k) = false := by
          refine List.any_eq_false.mpr fun e he hek => ?_
          simp [withoutEntryFor, beq_iff_eq.mp hek] at he
        simp [hsk, eraseEntry, filter_key_ne r.distinct hr, putEntry, hany]
  · -- the spellings: `k` now stands for its lowered key, and the others are as they were
    intro k'
    unfold spelling? CaselessDict.set Reference.set
    simp only [putSpelling_eq_putBy, find?_putBy, entryFor?_setEntry]
    split
    · rfl
    · exact ht.spelling k'

theorem Tracks.erase (ht : Tracks d r) (k : String) :
    (d.erase k = .error (Text.lower k) ∧ r.erase k = .error (Text.lower k)) ∨
      ∃ d' r', d.erase k = .ok d' ∧ r.erase k = .ok r' ∧ Tracks d' r' := by
  unfold CaselessDict.erase Reference.erase
  simp only [ht.spelling k]
  cases hr : entryFor? r.entries k with
  | none => exact .inl ⟨rfl, rfl⟩
  | some e =>
    obtain ⟨s, w⟩ := e
    refine .inr ⟨_, _, rfl, rfl, ⟨?_, fun k' => ?_⟩⟩
    · simp only [eraseEntry, ht.entries]
      exact filter_key_ne r.distinct hr
    · -- the spelling of the removed key's lowered form goes, the others stay
      unfold spelling?
      simp only [List.find?_filter, entryFor?_withoutEntryFor]
      split
      · rename_i hk
        rw [List.find?_eq_none.mpr fun p _ => by simp [hk]]
        rfl
      · rename_i hk
        rw [← ht.spelling k', spelling?]
        congr 2
        funext p
        by_cases hp : p.1 = Text.lower k' <;> simp [hp, hk]

end Tracks

theorem tracks_simulation : Ops.Simulation ops Reference.ops Tracks where
  set _ _ k v ht := ht.set k v
  erase _ _ k ht := by
    rcases ht.erase k with ⟨hd, hr⟩ | ⟨d', r', hd, hr, ht'⟩
    · exact .inl ⟨_, hd, hr⟩
    · exact .inr ⟨d', r', hd, hr, ht'⟩
  get _ _ k ht := ht.get k
  contains _ _ k ht := ht.contains k
  size _ _ ht := by simp [ops, Reference.ops, size, ht.entries]
  keys _ _ ht := by simp [ops, Reference.ops, keys, ht.entries]
  equals _ _ other ht := ht.equalsEntries other

theorem set_of_spelling {d : CaselessDict} {k : String} (v : Value)
    (h : d.spelling? k = none ∨ d.spelling? k = some k) :
    d.set k v = ⟨putEntry d.entries k v, putSpelling d.spellings (Text.lower k) k⟩ := by
  unfold CaselessDict.set
  rcases h with h | h <;> simp [h]

theorem ofList_append_singleton (es : List (String × Value)) (e : String × Value) :
    ofList (es ++ [e]) = ⟨putEntry (ofList es).entries e.1 e.2,
      (putEntry (ofList es).entries e.1 e.2).foldl
        (fun acc x => putSpelling acc (Text.lower x.1) x.1) []⟩ := by
  simp only [ofList, List.foldl_append, List.foldl_cons, List.foldl_nil]

/-- Without two keys alike but for case, the key that stands for the lowered form of `e`'s key,
if any does, is `e`'s key itself. -/
theorem spelling?_ofList_of_distinct {es : List (String × Value)} {e : String × Value}
    (h : CaseDistinct (es ++ [e])) :
    (ofList es).spelling? e.1 = none ∨ (ofList es).spelling? e.1 = some e.1 := by
  rw [spelling?_ofList]
  cases hf : (headerEntries es).reverse.find? (Text.lower ·.1 == Text.lower e.1) with
  | none => exact .inl rfl
  | some a =>
    have ha : a ∈ es :=
      mem_of_mem_foldl_putBy (List.mem_reverse.mp (List.mem_of_find?_eq_some hf))
    have hlow : Text.lower a.1 = Text.lower e.1 := by simpa using List.find?_some hf
    exact .inr (congrArg some (h a (by simp [ha]) e (by simp) hlow))

theorem spellings_putEntry {es : List (String × Value)} {e : String × Value}
    (h : CaseDistinct (es ++ [e])) :
    (putEntry (ofList es).entries e.1 e.2).foldl
        (fun acc x => putSpelling acc (Text.lower x.1) x.1) [] =
      putSpelling (ofList es).spellings (Text.lower e.1) e.1 := by
  have hspell : (ofList es).spellings =
      ((ofList es).entries.map fun x => (Text.lower x.1, x.1)).foldl (putBy Prod.fst) [] :=
    foldl_putSpelling (ofList es).entries
  unfold putEntry
  split
  · rename_i hany
    -- the keys stay as they were
    have hkeys : ((ofList es).entries.map fun b => if b.1 == e.1 then (e.1, e.2) else b).map
        (fun x => (Text.lower x.1, x.1)) = (ofList es).entries.map (fun x => (Text.lower x.1, x.1)) := by
      rw [List.map_map]
      refine List.map_congr_left fun b _ => ?_
      by_cases hb : b.1 = e.1 <;> simp [hb]
    rw [foldl_putSpelling, hkeys, ← hspell, putSpelling_eq_putBy]
    refine (putBy_of_mem (by rw [hspell]; exact nodup_keys_foldl_putBy _) ?_).symm
    -- `e`'s key is kept, so a key stands for its lowered form, and that key is `e`'s own
    obtain ⟨x, hx, hxe⟩ : ∃ x ∈ (ofList es).entries, x.1 = e.1 := by simpa using hany
    have hsome : (ofList es).spelling? e.1 = some e.1 := by
      rcases spelling?_ofList_of_distinct h with hnone | hsome
      · rw [spelling?_ofList, Option.map_eq_none_iff, List.find?_eq_none] at hnone
        exact absurd (hnone x (List.mem_reverse.mpr hx)) (by simp [hxe])
      · exact hsome
    obtain ⟨p, hp, hpe⟩ := Option.map_eq_some_iff.mp hsome
    have hp1 : p.1 = Text.lower e.1 := by simpa using List.find?_some hp
    have hmem := List.mem_of_find?_eq_some hp
    rwa [show p = (Text.lower e.1, e.1) from Prod.ext hp1 hpe] at hmem
  · rw [List.foldl_append]
    rfl

/-- Without two keys alike but for case, making a dictionary from entries is setting each in
turn. -/
theorem ofList_eq_foldl_set {es : List (String × Value)} (h : CaseDistinct es) :
    ofList es = es.foldl (fun d e => d.set e.1 e.2) ⟨[], []⟩ := by
  induction es using List.reverseRecOn with
  | nil => rfl
  | append_singleton es e ih =>
    have hes : CaseDistinct es := fun a ha b hb => h a (by simp [ha]) b (by simp [hb])
    rw [List.foldl_append, List.foldl_cons, List.foldl_nil, ← ih hes, ofList_append_singleton,
      spellings_putEntry h]
    exact (set_of_spelling e.2 (spelling?_ofList_of_distinct h)).symm

theorem tracks_empty : Tracks ⟨[], []⟩ Reference.empty :=
  ⟨rfl, fun _ => rfl⟩

theorem Tracks.foldl_set {d : CaselessDict} {r : Reference} (ht : Tracks d r) :
    ∀ es : List (String × Value),
      Tracks (es.foldl (fun d e => d.set e.1 e.2) d) (es.foldl (fun r e => r.set e.1 e.2) r)
  | [] => ht
  | e :: es => (ht.set e.1 e.2).foldl_set es

theorem tracks_ofList {es : List (String × Value)} (h : CaseDistinct es) :
    Tracks (ofList es) (Reference.ofList es) := by
  rw [ofList_eq_foldl_set h]
  exact tracks_empty.foldl_set es

theorem mem_lowerKeys_setEntry {es : List (String × Value)} {k l : String} (v : Value) :
    l ∈ lowerKeys (setEntry es k v) ↔ l ∈ lowerKeys es ∨ l = Text.lower k := by
  unfold setEntry
  split
  · rename_i s w hs
    split
    · rename_i hsk
      -- the entry for `k` was there, with its lowered key
      have hmem : Text.lower k ∈ lowerKeys es := by
        rw [← hsk]
        exact List.mem_map.mpr ⟨(s, w), List.mem_of_find?_eq_some hs, rfl⟩
      rw [lowerKeys_map_replace]
      constructor
      · exact .inl
      · rintro (hl | rfl)
        · exact hl
        · exact hmem
    · rw [lowerKeys_append, lowerKeys_withoutEntryFor]
      by_cases hl : l = Text.lower k <;> simp [hl]
  · simp

theorem mem_lowerKeys_ofList (es : List (String × Value)) (l : String) :
    l ∈ lowerKeys (Reference.ofList es).entries ↔ l ∈ lowerKeys es := by
  suffices h : ∀ (r : Reference) (es : List (String × Value)),
      l ∈ lowerKeys (es.foldl (fun r e => r.set e.1 e.2) r).entries ↔
        l ∈ lowerKeys r.entries ∨ l ∈ lowerKeys es by
    simpa [Reference.ofList, Reference.empty, lowerKeys] using h Reference.empty es
  intro r es
  induction es generalizing r with
  | nil => simp
  | cons e es ih =>
    rw [List.foldl_cons, ih, Reference.set]
    simp only [mem_lowerKeys_setEntry, lowerKeys_cons, List.mem_cons]
    tauto

theorem size_ofList (es : List (String × Value)) :
    (ofList es).size = (es.map Prod.fst).toFinset.card := by
  have hkeys : (ofList es).entries.map Prod.fst = (es.map Prod.fst).eraseDups :=
    keys_foldl_putBy es
  have hnodup : ((ofList es).entries.map Prod.fst).Nodup := nodup_keys_foldl_putBy es
  rw [size, ← List.length_map (f := Prod.fst), ← List.toFinset_card_of_nodup hnodup, hkeys]
  congr 1
  ext x
  simp [List.mem_eraseDups]

theorem length_reference_ofList (es : List (String × Value)) :
    (Reference.ofList es).entries.length = ((es.map Prod.fst).toFinset.image Text.lower).card := by
  have hnodup := (Reference.ofList es).distinct
  rw [← List.length_map (f := fun e : String × Value => Text.lower e.1), ← lowerKeys,
    ← List.toFinset_card_of_nodup hnodup]
  congr 1
  ext l
  rw [List.mem_toFinset, mem_lowerKeys_ofList]
  simp [lowerKeys]

theorem caseDistinct_of_size_eq {es : List (String × Value)}
    (h : (ofList es).size = (Reference.ofList es).entries.length) : CaseDistinct es := by
  rw [size_ofList, length_reference_ofList] at h
  have hinj := Finset.card_image_iff.mp h.symm
  intro a ha b hb hab
  exact hinj (by simpa using List.mem_map_of_mem (f := Prod.fst) ha)
    (by simpa using List.mem_map_of_mem (f := Prod.fst) hb) hab

/-- A case-insensitive dictionary made from entries answers every run of operations as the
dictionary that setting the entries in turn makes, exactly when no two of the keys given differ
only in case. With two such keys it keeps both as entries, where the other keeps one. -/
theorem ofList_refines_iff (es : List (String × Value)) :
    (∀ run : List Op, ops.answers (ofList es) run = Reference.ops.answers (Reference.ofList es) run) ↔
      CaseDistinct es := by
  constructor
  · intro h
    have hsize := h [.size]
    simp only [Ops.answers, Ops.step, ops, Reference.ops, List.cons.injEq, Answer.count.injEq,
      and_true] at hsize
    exact caseDistinct_of_size_eq hsize
  · intro h run
    exact tracks_simulation.answers_eq (tracks_ofList h) run

/-- Made from `A` and `a`, the dictionary keeps both, and a key set after them makes three
entries; the dictionary it stands for keeps `a`, with the value given last, and has two. -/
theorem caseVariants_kept_apart :
    ¬ CaseDistinct [("A", .int 1), ("a", .int 2)] ∧
    (¬ ∀ run : List Op, ops.answers (ofList [("A", .int 1), ("a", .int 2)]) run =
        Reference.ops.answers (Reference.ofList [("A", .int 1), ("a", .int 2)]) run) ∧
    ops.answers (ofList [("A", .int 1), ("a", .int 2)]) [.set "b" (.int 3), .size, .keys] =
      [.done, .count 3, .names ["A", "a", "b"]] ∧
    Reference.ops.answers (Reference.ofList [("A", .int 1), ("a", .int 2)])
        [.set "b" (.int 3), .size, .keys] = [.done, .count 2, .names ["a", "b"]] := by
  have hnd : ¬ CaseDistinct [("A", .int 1), ("a", .int 2)] := fun h =>
    absurd (h ("A", .int 1) (by simp) ("a", .int 2) (by simp) (by decide)) (by decide)
  exact ⟨hnd, fun h => hnd ((ofList_refines_iff _).mp h), rfl, rfl⟩

end CaselessDict

end UpnpBinding
