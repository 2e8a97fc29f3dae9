import UpnpBinding.Client.FactoryRuns
/-!
The endpoints of the known services. A known service is found by its own name, and a name finds
none exactly when no known service has it in any case. Every path of a known service is plain:
it starts with a single `/` and holds no colon, tab, carriage return or line feed, so splitting
cannot take it for a scheme or a network location, and it resolves against every device URL
against which some other reference resolved. So a definition with a known service's endpoints
binds to every such device.

Main statement: `bound_ok`.
-/
namespace UpnpBinding

namespace KnownService

theorem mem_of_find? {n : String} {s : KnownService} (h : find? n = some s) : s ∈ all := by
  unfold find? at h
  split at h
  · rename_i s' hexact
    cases h
    exact List.mem_of_find?_eq_some hexact
  · exact List.mem_of_find?_eq_some h

theorem find?_eq_none_iff {n : String} :
    find? n = none ↔ ∀ s ∈ all, Text.lower s.name ≠ Text.lower n := by
  unfold find?
  constructor
  · intro h s hs hlower
    split at h
    · cases h
    · have := List.find?_eq_none.mp h s hs
      simp [hlower] at this
  · intro h
    have hexact : all.find? (·.name == n) = none :=
      List.find?_eq_none.mpr fun s hs hname => h s hs (by rw [eq_of_beq hname])
    rw [hexact]
    exact List.find?_eq_none.mpr fun s hs hlower => h s hs (by simpa using hlower)

theorem find?_name_isSome {s : KnownService} (hs : s ∈ all) : (find? s.name).isSome := by
  unfold find?
  have hexact : (all.find? (·.name == s.name)).isSome := List.find?_isSome.mpr ⟨s, hs, by simp⟩
  split
  · rfl
  · rename_i hnone
    simp [hnone] at hexact

end KnownService

namespace Url

def isPathText (s : String) : Bool :=
  s.toList.all fun x => x != ':' && x != '\t' && x != '\r' && x != '\n'

/-- Whether a text is a path that splitting cannot take for anything else: it starts with a
single `/`, and holds no colon, tab, carriage return or line feed. -/
def isPlainPath (q : String) : Bool :=
  match q.toList with
  | '/' :: c :: _ => c != '/' && isPathText q
  | _ => false

theorem isPathText_append (a b : String) : isPathText (a ++ b) = (isPathText a && isPathText b) := by
  simp [isPathText, List.all_append]

theorem isPlainPath_append {a b : String} (ha : isPlainPath a = true) (hb : isPathText b = true) :
    isPlainPath (a ++ b) = true := by
  unfold isPlainPath at ha ⊢
  rw [String.toList_append]
  split at ha
  · rename_i c rest hcs
    simp only [Bool.and_eq_true] at ha
    rw [hcs]
    simp [isPathText_append, ha, hb]
  · cases ha

theorem isPlainPath_ne_empty {q : String} (hq : isPlainPath q = true) : q ≠ "" := by
  rintro rfl
  cases hq

theorem splitCharsFirst?_eq_none {c : Char} {l : List Char} (h : ∀ x ∈ l, x ≠ c) :
    Text.splitCharsFirst? c l = none := by
  induction l with
  | nil => rfl
  | cons x rest ih =>
    have hx : (x == c) = false := by simpa using h x List.mem_cons_self
    simp only [Text.splitCharsFirst?, hx, Bool.false_eq_true, if_false,
      ih fun y hy => h y (List.mem_cons_of_mem x hy), Option.map_none]

theorem splitWith_plain {q : String} (hq : isPlainPath q = true) (scheme : String) :
    ∃ u, splitWith scheme q = .ok u := by
  unfold isPlainPath at hq
  split at hq
  · rename_i c rest hcs
    simp only [isPathText, Bool.and_eq_true, bne_iff_ne, ne_eq, List.all_eq_true] at hq
    obtain ⟨hc, hall⟩ := hq
    -- nothing is trimmed or filtered, no colon makes a scheme, and one `/` makes no location
    have hdrop : q.toList.dropWhile (fun c => c.toNat ≤ 0x20) = q.toList := by
      rw [hcs]
      simp
    have hfilter : q.toList.filter (fun c => c != '\t' && c != '\r' && c != '\n') = q.toList := by
      rw [List.filter_eq_self]
      intro x hx
      have := hall x hx
      simp_all
    have hnone : Text.splitCharsFirst? ':' q.toList = none :=
      splitCharsFirst?_eq_none fun x hx => by
        have := hall x hx
        simp_all
    unfold splitWith
    simp only [hdrop, hfilter, hnone]
    rw [hcs]
    simp [hc, pure, Except.pure]
  · cases hq

theorem parseWith_plain {q : String} (hq : isPlainPath q = true) (scheme : String) :
    ∃ y, parseWith scheme q = .ok y := by
  obtain ⟨u, hu⟩ := splitWith_plain hq scheme
  unfold parseWith
  simp only [hu, bind, Except.bind]
  split <;> exact ⟨_, rfl⟩

theorem exists_ok_ite {ε α : Type} {c : Prop} [Decidable c] {x y : Except ε α}
    (hx : ∃ w, x = .ok w) (hy : ∃ w, y = .ok w) : ∃ w, (if c then x else y) = .ok w := by
  split
  · exact hx
  · exact hy

theorem join_plain {base ref w q : String} (h : join base ref = .ok w) (hr : ref ≠ "")
    (hq : isPlainPath q = true) : ∃ w', join base q = .ok w' := by
  by_cases hb : base = ""
  · subst hb
    exact ⟨q, rfl⟩
  · have hqne := isPlainPath_ne_empty hq
    -- the base was split when `ref` was resolved
    obtain ⟨⟨b, bp⟩, hbase⟩ : ∃ b, parseWith "" base = .ok b := by
      unfold join at h
      simp only [beq_iff_eq, hb, hr, if_false, bind, Except.bind] at h
      split at h
      · cases h
      · exact ⟨_, ‹_›⟩
    obtain ⟨⟨r, rp⟩, href⟩ := parseWith_plain hq b.scheme
    unfold join
    simp only [beq_iff_eq, hb, hqne, if_false, bind, Except.bind, hbase, href]
    -- every branch of the resolution gives a URL
    exact exists_ok_ite ⟨_, rfl⟩ (exists_ok_ite ⟨_, rfl⟩ (exists_ok_ite ⟨_, rfl⟩ ⟨_, rfl⟩))

end Url

namespace KnownService

theorem make_paths_plain {name pre : String} (hname : Url.isPlainPath ("/" ++ name) = true)
    (hpre : pre = "" ∨ Url.isPlainPath pre = true) :
    Url.isPlainPath (make name pre).controlPath = true ∧
      Url.isPlainPath (make name pre).eventPath = true ∧ Url.isPlainPath (make name pre).scpdPath = true := by
  have htext : Url.isPathText name = true := by
    unfold Url.isPlainPath at hname
    split at hname
    · simp only [Bool.and_eq_true, Url.isPathText_append] at hname
      exact hname.2.2
    · cases hname
  have hunder : Url.isPlainPath (pre ++ "/" ++ name) = true := by
    rcases hpre with rfl | hpre
    · simpa using hname
    · rw [String.append_assoc]
      exact Url.isPlainPath_append hpre (by simp [Url.isPathText_append, htext]; decide)
  refine ⟨Url.isPlainPath_append hunder (by decide), Url.isPlainPath_append hunder (by decide), ?_⟩
  exact Url.isPlainPath_append (Url.isPlainPath_append (by decide) htext) (by decide)

theorem paths_plain {s : KnownService} (hs : s ∈ all) :
    Url.isPlainPath s.controlPath = true ∧ Url.isPlainPath s.eventPath = true ∧
      Url.isPlainPath s.scpdPath = true := by
  simp only [all, List.mem_cons, List.not_mem_nil, or_false] at hs
  -- each name and prefix is checked once, not each path
  rcases hs with rfl | rfl | rfl | rfl | rfl | rfl | rfl | rfl | rfl | rfl | rfl | rfl | rfl | rfl <;>
    exact make_paths_plain (by decide) (by decide)

theorem orElse_scpdPath_ne_empty {s : KnownService} (hs : s ∈ all) (p : Option String) :
    Factory.orElse (p.getD "") s.scpdPath ≠ "" := by
  unfold Factory.orElse
  split
  · exact Url.isPlainPath_ne_empty (paths_plain hs).2.2
  · rename_i hne
    simpa [String.isEmpty_iff] using hne

end KnownService

namespace Factory

/-- A definition with a known service's endpoints binds to every device URL against which some
reference resolved. -/
theorem bound_ok {d : ServiceDefinition} {u ref w : String}
    (hpaths : ∃ s ∈ KnownService.all, d.controlPath = s.controlPath ∧ d.eventPath = s.eventPath)
    (hjoin : Url.join u ref = .ok w) (href : ref ≠ "") :
    ∃ b, Binding.make d u = .ok b ∧ bound d u = .ok b := by
  obtain ⟨s, hs, hcp, hep⟩ := hpaths
  have hplain := KnownService.paths_plain hs
  obtain ⟨c, hc⟩ := Url.join_plain hjoin href (hcp ▸ hplain.1)
  obtain ⟨e, he⟩ := Url.join_plain hjoin href (hep ▸ hplain.2.1)
  have hmake : Binding.make d u = .ok ⟨d, u, c, e, d.evented.map fun f => (f.name, .none)⟩ := by
    unfold Binding.make
    rw [hc, he]
    rfl
  exact ⟨_, hmake, by simp [bound, hmake]⟩

end Factory

end UpnpBinding
