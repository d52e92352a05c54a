import Mathlib.Data.List.Nodup
import DiscoveryDemo.Slideshow.Pass

/-!
# Proofs: what a pass of the slideshow shows

A pass presents the pictures whose names are not hidden. It pauses only after them, so that a pass
without any of them takes no time at all.
-/

namespace DiscoveryDemo.Slideshow

open CLib

/-! ## Paths -/

theorem path_inj {name name' : List Byte} (h : path name = path name') : name = name' :=
  (List.cons.inj (List.append_cancel_left h)).2

/-- A suffix without a slash that a path has is one of its last component. -/
theorem suffix_path_iff {suffix name : List Byte} (hs : ch '/' ∉ suffix) :
    suffix <:+ path name ↔ suffix <:+ name := by
  have hname : name <:+ path name := ⟨imageDir ++ [ch '/'], by simp [path]⟩
  constructor
  · intro h
    by_cases hlen : suffix.length ≤ name.length
    · exact List.suffix_of_suffix_length_le h hname hlen
    · exfalso
      have hslash : ch '/' :: name <:+ path name := List.suffix_append imageDir _
      have hle : (ch '/' :: name).length ≤ suffix.length := by
        rw [List.length_cons]
        omega
      have hsub := List.suffix_of_suffix_length_le hslash h hle
      exact hs (hsub.subset List.mem_cons_self)
  · intro h
    exact h.trans hname

theorem isImage_path (name : List Byte) : isImage (path name) = isImage name := by
  have hiff : ∀ suffix : List Byte, ch '/' ∉ suffix →
      suffix.isSuffixOf (path name) = suffix.isSuffixOf name := by
    intro suffix hs
    rw [Bool.eq_iff_iff, List.isSuffixOf_iff_suffix, List.isSuffixOf_iff_suffix, suffix_path_iff hs]
  simp only [isImage, List.any_cons, List.any_nil]
  rw [hiff _ (by decide), hiff _ (by decide), hiff _ (by decide), hiff _ (by decide)]

theorem isFile_iff {dir : Dir} {img : List Byte} :
    isFile dir img = true ↔ ∃ e ∈ dir.entries, path e.name = img ∧ e.kind = .regular := by
  simp only [isFile, List.any_eq_true, decide_eq_true_eq]

/-! ## The pattern -/

section Expand

variable {order : Collation} {dir : Dir}

/-- The names that the pattern matches. -/
def visible (dir : Dir) : List (List Byte) :=
  (dir.entries.map Entry.name).filter fun name => !isHidden name

theorem mem_visible {name : List Byte} :
    name ∈ visible dir ↔ (∃ e ∈ dir.entries, e.name = name) ∧ isHidden name = false := by
  simp only [visible, List.mem_filter, List.mem_map, Bool.not_eq_true']

theorem expand_of_visible (h : visible dir ≠ []) :
    expand order dir = ((visible dir).map path).mergeSort order.le := by
  unfold expand
  rw [← visible]
  split
  · rename_i hnil
    exact absurd hnil h
  · rfl

theorem expand_of_none (h : visible dir = []) : expand order dir = [path [ch '*']] := by
  unfold expand
  rw [← visible, h]

/-- No file has the name of the pattern, if that matches nothing. -/
theorem not_isFile_pattern (h : visible dir = []) : isFile dir (path [ch '*']) = false := by
  by_contra hfile
  obtain ⟨e, he, hpath, -⟩ := isFile_iff.mp (Bool.not_eq_false _ ▸ hfile)
  have hmem : [ch '*'] ∈ visible dir := mem_visible.mpr ⟨⟨e, he, path_inj hpath⟩, by decide⟩
  rw [h] at hmem
  exact absurd hmem List.not_mem_nil

theorem expand_nodup (order : Collation) (dir : Dir) : (expand order dir).Nodup := by
  by_cases h : visible dir = []
  · rw [expand_of_none h]
    exact List.nodup_singleton _
  · rw [expand_of_visible h]
    refine (List.mergeSort_perm _ _).nodup_iff.mpr ?_
    exact (dir.nodup.filter _).map fun _ _ hpath => path_inj hpath

theorem expand_sorted (order : Collation) (dir : Dir) :
    (expand order dir).Pairwise fun a b => order.le a b = true := by
  by_cases h : visible dir = []
  · rw [expand_of_none h]
    exact List.pairwise_singleton _ _
  · rw [expand_of_visible h]
    exact List.pairwise_mergeSort order.trans order.total _

/-- The pictures that the pattern matches. -/
theorem mem_expand_iff {img : List Byte} :
    (img ∈ expand order dir ∧ isFile dir img = true ∧ isImage img = true) ↔
      ∃ e ∈ dir.entries, e.IsPicture ∧ isHidden e.name = false ∧ path e.name = img := by
  constructor
  · rintro ⟨hmem, hfile, himage⟩
    obtain ⟨e, he, rfl, hkind⟩ := isFile_iff.mp hfile
    rw [isImage_path] at himage
    refine ⟨e, he, ⟨hkind, himage⟩, ?_, rfl⟩
    by_cases h : visible dir = []
    · rw [expand_of_none h, List.mem_singleton] at hmem
      rw [hmem, not_isFile_pattern h] at hfile
      cases hfile
    · rw [expand_of_visible h, List.mem_mergeSort, List.mem_map] at hmem
      obtain ⟨name, hname, hpath⟩ := hmem
      rw [← path_inj hpath]
      exact (mem_visible.mp hname).2
  · rintro ⟨e, he, ⟨hkind, himage⟩, hvisible, rfl⟩
    have hmem : e.name ∈ visible dir := mem_visible.mpr ⟨⟨e, he, rfl⟩, hvisible⟩
    refine ⟨?_, isFile_iff.mpr ⟨e, he, rfl, hkind⟩, by rw [isImage_path]; exact himage⟩
    rw [expand_of_visible (List.ne_nil_of_mem hmem), List.mem_mergeSort]
    exact List.mem_map_of_mem hmem

end Expand

/-! ## The events of a pass -/

section Events

variable {useFbv : Bool} {order : Collation} {dir : Dir}

/-- The images that the pass presents. -/
def shown (order : Collation) (dir : Dir) : List (List Byte) :=
  (expand order dir).filter fun img => isFile dir img && isImage img

theorem mem_shown {img : List Byte} :
    img ∈ shown order dir ↔
      ∃ e ∈ dir.entries, e.IsPicture ∧ isHidden e.name = false ∧ path e.name = img := by
  rw [← mem_expand_iff, shown, List.mem_filter, Bool.and_eq_true]

theorem body_shows {img : List Byte} (hfile : isFile dir img = true) (himage : isImage img = true) :
    body useFbv dir img =
      (if useFbv then [.displaying img, .fbv img] else [.image img]) ++ [.sleep delay] := by
  rw [body, if_neg (not_not.mpr hfile), if_pos himage]

theorem body_skips {img : List Byte} (h : ¬(isFile dir img = true ∧ isImage img = true)) :
    body useFbv dir img = [] := by
  unfold body
  by_cases hfile : isFile dir img = true
  · rw [if_neg (not_not.mpr hfile), if_neg fun himage => h ⟨hfile, himage⟩]
  · rw [if_pos hfile]

theorem presented_append (a b : List Event) : presented (a ++ b) = presented a ++ presented b :=
  List.filterMap_append

theorem Paused.append {a b : List Event} (ha : Paused a) (hb : Paused b) : Paused (a ++ b) := by
  induction a with
  | nil => exact hb
  | cons e a ih =>
    obtain ⟨he, ha⟩ := ha
    refine ⟨fun hpresented => ?_, ih ha⟩
    have hhead := he hpresented
    cases a with
    | nil => cases hhead
    | cons e' a => exact hhead

/-- The events of the body, if the image is shown. -/
theorem body_cases (useFbv : Bool) (dir : Dir) (img : List Byte) :
    presented (body useFbv dir img) = (if isFile dir img && isImage img then [img] else []) ∧
      Paused (body useFbv dir img) := by
  by_cases h : isFile dir img = true ∧ isImage img = true
  · have hand : (isFile dir img && isImage img) = true := Bool.and_eq_true_iff.mpr h
    rw [body_shows h.1 h.2, if_pos hand]
    cases useFbv with
    | false => exact ⟨rfl, fun _ => rfl, fun hsleep => absurd rfl hsleep, trivial⟩
    | true =>
      exact ⟨rfl, fun hecho => absurd rfl hecho, fun _ => rfl, fun hsleep => absurd rfl hsleep, trivial⟩
  · have hand : ¬(isFile dir img && isImage img) = true := fun hand => h (Bool.and_eq_true_iff.mp hand)
    rw [body_skips h, if_neg hand]
    exact ⟨rfl, trivial⟩

/-- What the loop over the paths presents, with its pauses. -/
theorem loop_presented (imgs : List (List Byte)) :
    presented (imgs.flatMap (body useFbv dir)) =
        imgs.filter (fun img => isFile dir img && isImage img) ∧
      Paused (imgs.flatMap (body useFbv dir)) := by
  induction imgs with
  | nil => exact ⟨rfl, trivial⟩
  | cons img imgs ih =>
    obtain ⟨hpresented, hpaused⟩ := body_cases useFbv dir img
    rw [List.flatMap_cons, presented_append, hpresented, ih.1, List.filter_cons]
    refine ⟨?_, hpaused.append ih.2⟩
    split
    · rfl
    · rfl

/-- **What a pass presents**: the pictures that are not hidden. -/
theorem presented_pass : presented (pass useFbv order dir) = shown order dir :=
  (loop_presented _).1

theorem pass_paused : Paused (pass useFbv order dir) := (loop_presented _).2

/-- A pass that presents nothing does nothing at all. -/
theorem pass_eq_nil (h : shown order dir = []) : pass useFbv order dir = [] := by
  refine List.flatMap_eq_nil_iff.mpr fun img himg => body_skips fun hshows => ?_
  have hmem : img ∈ shown order dir :=
    List.mem_filter.mpr ⟨himg, Bool.and_eq_true_iff.mpr hshows⟩
  rw [h] at hmem
  exact absurd hmem List.not_mem_nil

/-- A pass pauses if it presents something. -/
theorem pass_sleeps {img : List Byte} (h : img ∈ shown order dir) :
    .sleep delay ∈ pass useFbv order dir := by
  obtain ⟨hmem, hand⟩ := List.mem_filter.mp h
  obtain ⟨hfile, himage⟩ := Bool.and_eq_true_iff.mp hand
  refine List.mem_flatMap.mpr ⟨img, hmem, ?_⟩
  rw [body_shows hfile himage]
  exact List.mem_append_right _ List.mem_cons_self

theorem Dir.InSight.exists_shown (order : Collation) (h : dir.InSight) : ∃ img, img ∈ shown order dir := by
  obtain ⟨⟨e, he, hpicture⟩, hvisible⟩ := h
  exact ⟨path e.name, mem_shown.mpr ⟨e, he, hpicture, hvisible e he hpicture, rfl⟩⟩

/-- **When a pass shows everything and pauses**: exactly if there is a picture in the directory, and
no picture is hidden. -/
theorem showsAll_iff : ShowsAll useFbv order dir ↔ dir.InSight := by
  constructor
  · intro h
    have hshown : ∀ img, img ∈ shown order dir ↔ ∃ e ∈ dir.entries, e.IsPicture ∧ path e.name = img := by
      intro img
      rw [← h.pictures, presented_pass]
    constructor
    · obtain ⟨seconds, hsleep⟩ := h.pauses
      by_cases hnone : shown order dir = []
      · rw [pass_eq_nil hnone] at hsleep
        exact absurd hsleep List.not_mem_nil
      · obtain ⟨img, himg⟩ := List.exists_mem_of_ne_nil _ hnone
        obtain ⟨e, he, hpicture, -⟩ := (hshown img).mp himg
        exact ⟨e, he, hpicture⟩
    · intro e he hpicture
      obtain ⟨e', -, -, hvisible, hpath⟩ := mem_shown.mp ((hshown _).mpr ⟨e, he, hpicture, rfl⟩)
      rw [← path_inj hpath]
      exact hvisible
  · intro h
    obtain ⟨img, hmem⟩ := h.exists_shown order
    obtain ⟨-, hvisible⟩ := h
    refine ⟨fun img => ?_, ?_, ?_, ?_, pass_paused, delay, pass_sleeps hmem⟩
    · rw [presented_pass, mem_shown]
      constructor
      · rintro ⟨e, he, hpicture, -, hpath⟩
        exact ⟨e, he, hpicture, hpath⟩
      · rintro ⟨e, he, hpicture, hpath⟩
        exact ⟨e, he, hpicture, hvisible e he hpicture, hpath⟩
    · rw [presented_pass]
      exact (expand_nodup order dir).filter _
    · rw [presented_pass]
      exact List.filter_sublist
    · rw [presented_pass]
      exact (expand_sorted order dir).filter _

end Events

/-- Over an empty directory the script spins. -/
theorem empty_dir_spins :
    (∀ n, slideshow true bytewise (List.replicate n ⟨[], List.nodup_nil⟩) = []) ∧
      ¬ShowsAll true bytewise ⟨[], List.nodup_nil⟩ := by
  have hnil : pass true bytewise ⟨[], List.nodup_nil⟩ = [] := by
    refine pass_eq_nil (List.eq_nil_iff_forall_not_mem.mpr fun img himg => ?_)
    obtain ⟨e, he, -⟩ := mem_shown.mp himg
    exact absurd he List.not_mem_nil
  constructor
  · intro n
    refine List.flatMap_eq_nil_iff.mpr fun dir hdir => ?_
    rw [List.eq_of_mem_replicate hdir]
    exact hnil
  · intro h
    obtain ⟨seconds, hsleep⟩ := h.pauses
    rw [hnil] at hsleep
    exact absurd hsleep List.not_mem_nil

end DiscoveryDemo.Slideshow
