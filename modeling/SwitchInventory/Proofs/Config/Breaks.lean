import SwitchInventory.Proofs.Config.Statement

namespace SwitchInventory.Config

open SwitchInventory.Text

/-- A text whose line feeds all separate the end of a line from the start of a continuation. -/
def SoundBreaks (s : List Char) : Prop :=
  ∀ a b, s = a ++ '\n' :: b →
    startsBlank a.reverse = false ∧ b ≠ [] ∧ startsBlank b = false ∧ isComment b = false

structure Tight (s : List Char) : Prop where
  trimmed : Trimmed s
  soundBreaks : SoundBreaks s

private theorem isComment_append {a : List Char} (ha : a ≠ []) (b : List Char) :
    isComment (a ++ b) = isComment a := by
  apply isComment_congr
  rw [List.head?_append_of_ne_nil a ha]

private theorem ne_nil_of_trimmed_append_newline {a b : List Char} (h : Trimmed (a ++ '\n' :: b)) :
    a ≠ [] := by
  intro ha
  have hstart := (trimmed_iff.mp h).1
  rw [ha] at hstart
  cases hstart

theorem SoundBreaks.of_isInfix {s part : List Char} (h : SoundBreaks s) (hpart : part <:+: s)
    (htrim : Trimmed part) : SoundBreaks part := by
  obtain ⟨p, q, rfl⟩ := hpart
  intro a b hab
  have hends := trimmed_iff.mp htrim
  have ha : a ≠ [] := ne_nil_of_trimmed_append_newline (hab ▸ htrim)
  have hb : b ≠ [] := by
    intro hb
    have hend := hends.2
    rw [hab, hb, List.reverse_append] at hend
    cases hend
  have hwhole : p ++ part ++ q = (p ++ a) ++ '\n' :: (b ++ q) := by rw [hab]; simp
  obtain ⟨hbefore, -, hafter, hcomment⟩ := h (p ++ a) (b ++ q) hwhole
  rw [startsBlank_reverse_append p ha] at hbefore
  rw [startsBlank_append hb] at hafter
  rw [isComment_append hb] at hcomment
  exact ⟨hbefore, hb, hafter, hcomment⟩

theorem tight_of_no_newline {s : List Char} (h : '\n' ∉ s) (ht : Trimmed s) : Tight s := by
  refine ⟨ht, ?_⟩
  intro a b hab
  exact absurd (by simp [hab]) h

/-- Two tight texts are tight when they are put together. -/
theorem Tight.append {s t : List Char} (hs : Tight s) (ht : Tight t) : Tight (s ++ t) := by
  by_cases hs0 : s = []
  · rwa [hs0, List.nil_append]
  by_cases ht0 : t = []
  · rwa [ht0, List.append_nil]
  have hsends := trimmed_iff.mp hs.trimmed
  have htends := trimmed_iff.mp ht.trimmed
  refine ⟨trimmed_append hs0 ht0 hsends.1 htends.2, ?_⟩
  intro a b hab
  rcases List.append_eq_append_iff.mp hab with ⟨m, ha, hm⟩ | ⟨m, hm, hb⟩
  · -- The line feed is in the second text.
    obtain ⟨hbefore, hrest⟩ := ht.soundBreaks m b hm
    have hm0 : m ≠ [] := ne_nil_of_trimmed_append_newline (hm ▸ ht.trimmed)
    rw [ha, startsBlank_reverse_append s hm0]
    exact ⟨hbefore, hrest⟩
  · cases m with
    | nil =>
      have hstart := htends.1
      rw [← show '\n' :: b = t from hb] at hstart
      cases hstart
    | cons c m =>
      rw [List.cons_append] at hb
      obtain ⟨rfl, rfl⟩ := List.cons.inj hb
      obtain ⟨hbefore, hm0, hafter, hcomment⟩ := hs.soundBreaks a m hm
      rw [startsBlank_append hm0, isComment_append hm0]
      exact ⟨hbefore, by simp [hm0], hafter, hcomment⟩

/-- Tight texts in a row are tight, with a tight mark between them. -/
theorem tight_intercalate {mark : List Char} (hmark : Tight mark) {texts : List (List Char)}
    (h : ∀ s ∈ texts, Tight s) : Tight (mark.intercalate texts) := by
  induction texts with
  | nil => exact tight_of_no_newline (by simp) rfl
  | cons s texts ih =>
    have hs := h s List.mem_cons_self
    have hrest := ih fun t ht => h t (List.mem_cons_of_mem s ht)
    cases texts with
    | nil => rwa [List.intercalate_singleton]
    | cons t texts =>
      rw [List.intercalate_cons_cons]
      exact (hs.append hmark).append hrest

theorem safeLines_append_iff {front back : List (List Char)} (h : front ≠ []) :
    SafeLines (front ++ back) ↔ SafeLines front ∧ ∀ line ∈ back, Continues line := by
  obtain ⟨first, more, rfl⟩ := List.exists_cons_of_ne_nil h
  rw [List.cons_append]
  change (Trimmed first ∧ ∀ line ∈ more ++ back, Continues line) ↔
    (Trimmed first ∧ ∀ line ∈ more, Continues line) ∧ _
  rw [List.forall_mem_append, and_assoc]

private theorem startsBlank_reverse_of_safeLines {s : List Char} (h : SafeLines (s.splitOn '\n')) :
    startsBlank s.reverse = false := by
  by_cases hs : '\n' ∈ s
  · obtain ⟨a, b, hab, ha⟩ := List.eq_append_cons_of_mem hs
    rw [hab, List.splitOn_append_cons_self_of_not_mem ha] at h
    have hb : b ≠ [] := by
      intro hb
      rw [hb] at h
      exact (h.2 [] List.mem_cons_self).1 rfl
    have hlines : SafeLines (b.splitOn '\n') := by
      obtain ⟨first, more, hfirst⟩ := List.exists_cons_of_ne_nil (List.splitOn_ne_nil '\n' b)
      rw [hfirst] at h ⊢
      exact ⟨(h.2 first List.mem_cons_self).2.1,
        fun line hl => h.2 line (List.mem_cons_of_mem first hl)⟩
    have hcons : s = a ++ ['\n'] ++ b := by simp [hab]
    rw [hcons, startsBlank_reverse_append _ hb]
    exact startsBlank_reverse_of_safeLines hlines
  · rw [List.splitOn_eq_singleton hs] at h
    exact (trimmed_iff.mp h.1).2
termination_by s.length
decreasing_by
  rw [hab, List.length_append, List.length_cons]
  omega

private theorem head_of_continues {s : List Char} (h : ∀ line ∈ s.splitOn '\n', Continues line) :
    s ≠ [] ∧ startsBlank s = false ∧ isComment s = false := by
  by_cases hs : '\n' ∈ s
  · obtain ⟨a, b, rfl, ha⟩ := List.eq_append_cons_of_mem hs
    rw [List.splitOn_append_cons_self_of_not_mem ha] at h
    obtain ⟨ha0, htrim, hcomment⟩ := h a List.mem_cons_self
    rw [startsBlank_append ha0, isComment_append ha0]
    exact ⟨by simp, (trimmed_iff.mp htrim).1, hcomment⟩
  · rw [List.splitOn_eq_singleton hs] at h
    obtain ⟨hs0, htrim, hcomment⟩ := h s List.mem_cons_self
    exact ⟨hs0, (trimmed_iff.mp htrim).1, hcomment⟩

/-- No line feed of a safe value stands next to a blank or in front of a comment. -/
theorem SafeValue.soundBreaks {value : String}
    (h : SafeValue value) : SoundBreaks value.toList := by
  intro a b hab
  rw [SafeValue, hab, List.splitOn_append_cons_self,
    safeLines_append_iff (List.splitOn_ne_nil '\n' a)] at h
  exact ⟨startsBlank_reverse_of_safeLines h.1, head_of_continues h.2⟩

/-- The trimmed parts of safe values are tight. -/
theorem SafeValue.tight_of_isInfix {value : String} (h : SafeValue value) {part : List Char}
    (hpart : part <:+: value.toList) (htrim : Trimmed part) : Tight part :=
  ⟨htrim, h.soundBreaks.of_isInfix hpart htrim⟩

theorem Tight.after_newline {a b : List Char} (h : Tight (a ++ '\n' :: b)) :
    Tight b ∧ b ≠ [] ∧ isComment b = false := by
  obtain ⟨-, hb, hstart, hcomment⟩ := h.soundBreaks a b rfl
  have hcons : a ++ '\n' :: b = a ++ ['\n'] ++ b := by simp
  have hend := (trimmed_iff.mp h.trimmed).2
  rw [hcons, startsBlank_reverse_append _ hb] at hend
  have htrim : Trimmed b := trimmed_iff.mpr ⟨hstart, hend⟩
  have hinfix : b <:+: a ++ '\n' :: b := ⟨a ++ ['\n'], [], by simp⟩
  exact ⟨⟨htrim, h.soundBreaks.of_isInfix hinfix htrim⟩, hb, hcomment⟩

theorem Tight.before_newline {a b : List Char} (h : Tight (a ++ '\n' :: b)) : Trimmed a := by
  have hstart := (trimmed_iff.mp h.trimmed).1
  rw [startsBlank_append (ne_nil_of_trimmed_append_newline h.trimmed)] at hstart
  exact trimmed_iff.mpr ⟨hstart, (h.soundBreaks a b rfl).1⟩

theorem Tight.continues {s : List Char} (h : Tight s) (hs0 : s ≠ [])
    (hcomment : isComment s = false) :
    ∀ line ∈ s.splitOn '\n', Continues line := by
  intro line hline
  by_cases hs : '\n' ∈ s
  · obtain ⟨a, b, hab, ha⟩ := List.eq_append_cons_of_mem hs
    rw [hab] at h hcomment hline
    have ha0 := ne_nil_of_trimmed_append_newline h.trimmed
    rw [List.splitOn_append_cons_self_of_not_mem ha] at hline
    rcases List.mem_cons.mp hline with rfl | hline
    · rw [isComment_append ha0] at hcomment
      exact ⟨ha0, h.before_newline, hcomment⟩
    · obtain ⟨hb, hb0, hbcomment⟩ := h.after_newline
      exact hb.continues hb0 hbcomment line hline
  · rw [List.splitOn_eq_singleton hs, List.mem_singleton] at hline
    rw [hline]
    exact ⟨hs0, h.trimmed, hcomment⟩
termination_by s.length
decreasing_by
  rw [hab, List.length_append, List.length_cons]
  omega

/-- Where no line feed stands next to a blank or in front of a comment, a trimmed text is a safe
value. -/
theorem Tight.safeValue {s : List Char} (h : Tight s) : SafeValue (String.ofList s) := by
  rw [SafeValue, String.toList_ofList]
  by_cases hs : '\n' ∈ s
  · obtain ⟨a, b, rfl, ha⟩ := List.eq_append_cons_of_mem hs
    obtain ⟨hb, hb0, hcomment⟩ := h.after_newline
    rw [List.splitOn_append_cons_self_of_not_mem ha]
    exact ⟨h.before_newline, hb.continues hb0 hcomment⟩
  · rw [List.splitOn_eq_singleton hs]
    exact ⟨h.trimmed, by simp⟩

end SwitchInventory.Config
