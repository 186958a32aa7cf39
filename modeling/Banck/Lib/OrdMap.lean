/-
Banck.Lib.OrdMap — finite maps iterated in key order, over any ordered
key type.

`OrdMap κ ν` is the extensional tree map of the standard library: two
maps with the same entries are EQUAL, which is what lets a later proof
say that an operation left a map exactly as it was. The lemmas here are
the ones a program that stores its records in such a map needs beyond
the library's own: what the listed values are, how a sum over the values
moves with one insertion or removal, and that a map rebuilt from a list
of entries with distinct keys lists those entries in key order.
-/
import Mathlib

namespace Banck.Lib

/-- A finite map from `κ` to `ν`, listed in ascending key order. -/
abbrev OrdMap (κ ν : Type) [Ord κ] : Type := Std.ExtTreeMap κ ν compare

namespace OrdMap

variable {κ ν : Type} [Ord κ] [Std.TransOrd κ] [Std.LawfulEqOrd κ]

/-! ## Lookup -/

theorem get_insert_self (m : OrdMap κ ν) (k : κ) (v : ν) :
    (m.insert k v)[k]? = some v := by simp

theorem get_insert_ne (m : OrdMap κ ν) {k k' : κ} (v : ν) (h : k' ≠ k) :
    (m.insert k v)[k']? = m[k']? := by
  rw [Std.ExtTreeMap.getElem?_insert,
      if_neg (by rw [Std.compare_eq_iff_eq]; exact fun he => h he.symm)]

theorem get_erase_self (m : OrdMap κ ν) (k : κ) : (m.erase k)[k]? = none := by
  simp

theorem get_erase_ne (m : OrdMap κ ν) {k k' : κ} (h : k' ≠ k) :
    (m.erase k)[k']? = m[k']? := by
  rw [Std.ExtTreeMap.getElem?_erase,
      if_neg (by rw [Std.compare_eq_iff_eq]; exact fun he => h he.symm)]

omit [Std.LawfulEqOrd κ] in
theorem contains_eq_isSome (m : OrdMap κ ν) (k : κ) :
    m.contains k = m[k]?.isSome :=
  Std.ExtTreeMap.contains_eq_isSome_getElem?

/-- Writing back what is already there changes nothing. -/
theorem insert_get_self (m : OrdMap κ ν) {k : κ} {v : ν} (h : m[k]? = some v) :
    m.insert k v = m := by
  apply Std.ExtTreeMap.ext_getElem?
  intro k'
  by_cases hk : k' = k
  · subst hk; rw [get_insert_self, h]
  · rw [get_insert_ne m v hk]

/-- The last write to a key wins. -/
theorem insert_insert (m : OrdMap κ ν) (k : κ) (v w : ν) :
    (m.insert k v).insert k w = m.insert k w := by
  apply Std.ExtTreeMap.ext_getElem?
  intro k'
  by_cases hk : k' = k
  · subst hk; rw [get_insert_self, get_insert_self]
  · rw [get_insert_ne _ w hk, get_insert_ne _ v hk, get_insert_ne _ w hk]

theorem insert_erase (m : OrdMap κ ν) (k : κ) (v : ν) :
    (m.erase k).insert k v = m.insert k v := by
  apply Std.ExtTreeMap.ext_getElem?
  intro k'
  by_cases hk : k' = k
  · subst hk; rw [get_insert_self, get_insert_self]
  · rw [get_insert_ne _ v hk, get_erase_ne _ hk, get_insert_ne _ v hk]

/-- A write to a new key changes the map. -/
theorem insert_ne_self {m : OrdMap κ ν} {k : κ} (v : ν) (h : m[k]? = none) :
    m.insert k v ≠ m := by
  intro hsame
  have hadded := get_insert_self m k v
  rw [hsame, h] at hadded
  cases hadded

/-- So does the removal of a key that is there. -/
theorem erase_ne_self {m : OrdMap κ ν} {k : κ} {v : ν} (h : m[k]? = some v) :
    m.erase k ≠ m := by
  intro hsame
  have hgone := get_erase_self m k
  rw [hsame, h] at hgone
  cases hgone

/-- The maps have the same keys, and the two values of each are related. -/
def Rel (R : κ → ν → ν → Prop) (m m' : OrdMap κ ν) : Prop :=
  ∀ k : κ, Option.Rel (R k) m[k]? m'[k]?

section Rel

variable {R : κ → ν → ν → Prop} {m m' : OrdMap κ ν}

omit [Std.LawfulEqOrd κ] in
theorem Rel.refl (hrefl : ∀ k v, R k v v) (m : OrdMap κ ν) : Rel R m m := by
  intro k
  cases m[k]? with
  | none => exact .none
  | some v => exact .some (hrefl k v)

/-- Overwriting a value by a related one keeps the maps related. -/
theorem Rel.insert (h : Rel R m m') {k : κ} {v w : ν} (hv : m[k]? = some v)
    (hw : R k v w) : Rel R m (m'.insert k w) := by
  intro k'
  by_cases hk : k' = k
  · subst hk
    rw [hv, get_insert_self]
    exact .some hw
  · rw [get_insert_ne _ _ hk]
    exact h k'

end Rel

/-- Keep the entries that pass a test. -/
def retain (keep : κ → ν → Bool) (m : OrdMap κ ν) : OrdMap κ ν :=
  m.filterMap fun k v => if keep k v then some v else none

theorem get_retain (keep : κ → ν → Bool) (m : OrdMap κ ν) (k : κ) :
    (m.retain keep)[k]? = m[k]?.filter (keep k) := by
  rw [retain, Std.ExtTreeMap.getElem?_filterMap']
  cases m[k]? <;> rfl

theorem retain_empty (keep : κ → ν → Bool) : (∅ : OrdMap κ ν).retain keep = ∅ := by
  apply Std.ExtTreeMap.ext_getElem?
  intro k
  rw [get_retain]
  simp

/-! ## Mapping the values -/

section Map

variable {μ : Type} (f : ν → μ)

/-- The map with `f` applied to every value. -/
def mapVals (m : OrdMap κ ν) : OrdMap κ μ := m.map fun _ v => f v

theorem get_mapVals (m : OrdMap κ ν) (k : κ) : (mapVals f m)[k]? = m[k]?.map f :=
  Std.ExtTreeMap.getElem?_map

theorem mapVals_insert (m : OrdMap κ ν) (k : κ) (v : ν) :
    mapVals f (m.insert k v) = (mapVals f m).insert k (f v) := by
  apply Std.ExtTreeMap.ext_getElem?
  intro k'
  rw [get_mapVals]
  by_cases hk : k' = k
  · subst hk; rw [get_insert_self, get_insert_self, Option.map_some]
  · rw [get_insert_ne _ _ hk, get_insert_ne _ _ hk, get_mapVals]

theorem mapVals_erase (m : OrdMap κ ν) (k : κ) :
    mapVals f (m.erase k) = (mapVals f m).erase k := by
  apply Std.ExtTreeMap.ext_getElem?
  intro k'
  rw [get_mapVals]
  by_cases hk : k' = k
  · subst hk; rw [get_erase_self, get_erase_self, Option.map_none]
  · rw [get_erase_ne _ hk, get_erase_ne _ hk, get_mapVals]

end Map

/-! ## The listed values -/

/-- The values in ascending key order. -/
def vals (m : OrdMap κ ν) : List ν := m.toList.map Prod.snd

theorem mem_vals {m : OrdMap κ ν} {v : ν} :
    v ∈ m.vals ↔ ∃ k : κ, m[k]? = some v := by
  simp only [vals, List.mem_map, Prod.exists, exists_eq_right]
  exact exists_congr fun k => Std.ExtTreeMap.mem_toList_iff_getElem?_eq_some

theorem nodup_toList (m : OrdMap κ ν) : m.toList.Nodup :=
  (Std.ExtTreeMap.distinct_keys_toList (t := m)).imp fun {a b} hab he => by
    subst he; exact hab (Std.ReflCmp.compare_self)

omit [Std.LawfulEqOrd κ] in
theorem vals_retain (keep : ν → Bool) (m : OrdMap κ ν) :
    (m.retain fun _ v => keep v).vals = m.vals.filter keep := by
  have hkept : (fun p : κ × ν => (if keep p.2 then some p.2 else none).map fun v => (p.1, v)) =
      Option.guard fun p => keep p.2 := by
    funext p
    cases hkeep : keep p.2 <;> simp [Option.guard, hkeep]
  rw [vals, retain, Std.ExtTreeMap.toList_filterMap, hkept, List.filterMap_eq_filter, vals,
    List.filter_map]
  rfl

/-- Maps with the same entries that pass a test list the same values that
pass it. -/
theorem filter_vals_eq {keep : ν → Bool} {m m' : OrdMap κ ν}
    (h : ∀ k : κ, m[k]?.filter keep = m'[k]?.filter keep) :
    m.vals.filter keep = m'.vals.filter keep := by
  have hretained : (m.retain fun _ v => keep v) = m'.retain fun _ v => keep v := by
    apply Std.ExtTreeMap.ext_getElem?
    intro k
    rw [get_retain, get_retain]
    exact h k
  rw [← vals_retain, ← vals_retain, hretained]

/-- Distinct keys hold the listed values: a value that determines its key
occurs once. -/
theorem nodup_vals_map {γ : Type} (m : OrdMap κ ν) (key : ν → γ)
    (h : ∀ (k : κ) (v : ν) (k' : κ) (v' : ν),
      m[k]? = some v → m[k']? = some v' → key v = key v' → k = k') :
    (m.vals.map key).Nodup := by
  rw [vals, List.map_map]
  refine List.Nodup.map_on ?_ (nodup_toList m)
  rintro ⟨k, v⟩ hkv ⟨k', v'⟩ hkv' he
  rw [Std.ExtTreeMap.mem_toList_iff_getElem?_eq_some] at hkv hkv'
  have hk : k = k' := h k v k' v' hkv hkv' he
  subst hk
  rw [hkv] at hkv'
  rw [Option.some.inj hkv']

theorem toList_insert_perm (m : OrdMap κ ν) {k : κ} (v : ν) (h : m[k]? = none) :
    (m.insert k v).toList.Perm ((k, v) :: m.toList) := by
  have hfresh : (k, v) ∉ m.toList := by
    rw [Std.ExtTreeMap.mem_toList_iff_getElem?_eq_some, h]
    simp
  refine (List.perm_ext_iff_of_nodup (nodup_toList _)
    (List.nodup_cons.mpr ⟨hfresh, nodup_toList m⟩)).mpr ?_
  rintro ⟨k', v'⟩
  rw [Std.ExtTreeMap.mem_toList_iff_getElem?_eq_some, List.mem_cons,
      Std.ExtTreeMap.mem_toList_iff_getElem?_eq_some, Prod.mk.injEq]
  by_cases hk : k' = k
  · subst hk
    rw [get_insert_self, h]
    simp [eq_comm]
  · rw [get_insert_ne m v hk]
    simp [hk]

theorem toList_erase_perm (m : OrdMap κ ν) {k : κ} {v : ν} (h : m[k]? = some v) :
    m.toList.Perm ((k, v) :: (m.erase k).toList) := by
  have hback : (m.erase k).insert k v = m := by rw [insert_erase, insert_get_self m h]
  have hp := toList_insert_perm (m.erase k) v (get_erase_self m k)
  rwa [hback] at hp

/-! ## Rebuilding a map from its values -/

section Keyed

variable (key : ν → κ)

/-- Every value is filed under its own key. -/
def Keyed (m : OrdMap κ ν) : Prop := ∀ (k : κ) (v : ν), m[k]? = some v → key v = k

/-- Insert the values one by one, each under its own key. -/
def addVals (m : OrdMap κ ν) (values : List ν) : OrdMap κ ν :=
  values.foldl (fun m v => m.insert (key v) v) m

def ofVals (values : List ν) : OrdMap κ ν := addVals key ∅ values

omit [Std.LawfulEqOrd κ] in
theorem keyed_empty : Keyed key (∅ : OrdMap κ ν) := by
  intro k v h
  simp at h

theorem Keyed.insert {m : OrdMap κ ν} (h : Keyed key m) {k : κ} {v : ν} (hv : key v = k) :
    Keyed key (m.insert k v) := by
  intro k' v' h'
  by_cases hk : k' = k
  · subst hk
    rw [get_insert_self] at h'
    obtain rfl := Option.some.inj h'
    exact hv
  · rw [get_insert_ne m v hk] at h'
    exact h k' v' h'

theorem Keyed.erase {m : OrdMap κ ν} (h : Keyed key m) (k : κ) : Keyed key (m.erase k) := by
  intro k' v' h'
  by_cases hk : k' = k
  · subst hk
    rw [get_erase_self] at h'; cases h'
  · rw [get_erase_ne m hk] at h'
    exact h k' v' h'

variable {key}

/-- Inserting values with new and distinct keys adds exactly them. -/
theorem get_addVals : ∀ {values : List ν} {m : OrdMap κ ν}, (values.map key).Nodup →
    (∀ v ∈ values, m[key v]? = none) → ∀ (k : κ) (v : ν),
      (addVals key m values)[k]? = some v ↔ m[k]? = some v ∨ v ∈ values ∧ key v = k
  | [], m, _, _, k, v => by simp [addVals]
  | w :: rest, m, hnodup, hfresh, k, v => by
      obtain ⟨hw, hrest⟩ := List.nodup_cons.mp hnodup
      have hne : ∀ v ∈ rest, key v ≠ key w := fun v hv he =>
        hw (List.mem_map.mpr ⟨v, hv, he⟩)
      have ih := get_addVals (m := m.insert (key w) w) hrest
        (fun v hv => by rw [get_insert_ne _ _ (hne v hv)]; exact hfresh v (by simp [hv])) k v
      rw [addVals, List.foldl_cons]
      refine ih.trans ?_
      by_cases hk : k = key w
      · subst hk
        rw [get_insert_self, hfresh w (by simp)]
        constructor
        · rintro (h | ⟨hv, he⟩)
          · obtain rfl := Option.some.inj h
            exact .inr ⟨by simp, rfl⟩
          · exact .inr ⟨by simp [hv], he⟩
        · rintro (h | ⟨hv, he⟩)
          · cases h
          · rcases List.mem_cons.mp hv with rfl | hv
            · exact .inl rfl
            · exact absurd he (hne v hv)
      · rw [get_insert_ne _ _ hk]
        constructor
        · rintro (h | ⟨hv, he⟩)
          · exact .inl h
          · exact .inr ⟨by simp [hv], he⟩
        · rintro (h | ⟨hv, he⟩)
          · exact .inl h
          · rcases List.mem_cons.mp hv with rfl | hv
            · exact absurd he.symm hk
            · exact .inr ⟨hv, he⟩

theorem get_ofVals {values : List ν} (h : (values.map key).Nodup) (k : κ) (v : ν) :
    (ofVals key values)[k]? = some v ↔ v ∈ values ∧ key v = k := by
  rw [ofVals, get_addVals h (fun v _ => by simp)]
  simp

theorem keyed_ofVals {values : List ν} (h : (values.map key).Nodup) :
    Keyed key (ofVals key values) := fun k v hv => ((get_ofVals h k v).mp hv).2

/-- The values of a keyed map have distinct keys. -/
theorem Keyed.nodup {m : OrdMap κ ν} (h : Keyed key m) : (m.vals.map key).Nodup :=
  nodup_vals_map m key fun k v k' v' hv hv' he =>
    (h k v hv).symm.trans (he.trans (h k' v' hv'))

/-- A keyed map is rebuilt from its values. -/
theorem Keyed.ofVals_vals {m : OrdMap κ ν} (h : Keyed key m) : ofVals key m.vals = m := by
  apply Std.ExtTreeMap.ext_getElem?
  intro k
  ext v
  rw [get_ofVals h.nodup, mem_vals]
  constructor
  · rintro ⟨⟨k', hk'⟩, rfl⟩
    rwa [h k' v hk']
  · intro hv
    exact ⟨⟨k, hv⟩, h k v hv⟩

omit [Std.LawfulEqOrd κ] in
theorem ofVals_snoc (values : List ν) (v : ν) :
    ofVals key (values ++ [v]) = (ofVals key values).insert (key v) v := by
  simp [ofVals, addVals]

/-- The keys of a rebuilt map. -/
theorem contains_ofVals (values : List ν) (k : κ) :
    (ofVals key values).contains k = true ↔ ∃ v ∈ values, key v = k := by
  induction values using List.reverseRecOn with
  | nil => simp [ofVals, addVals]
  | append_singleton rest v ih =>
    rw [ofVals_snoc, Std.ExtTreeMap.contains_insert, Bool.or_eq_true, ih, beq_iff_eq,
      Std.compare_eq_iff_eq]
    simp only [List.mem_append, List.mem_singleton]
    constructor
    · rintro (he | ⟨w, hw, hk⟩)
      · exact ⟨v, .inr rfl, he⟩
      · exact ⟨w, .inl hw, hk⟩
    · rintro ⟨w, hw | rfl, hk⟩
      · exact .inr ⟨w, hw, hk⟩
      · exact .inl hk

/-- Of values with distinct keys that are inserted one by one, each is
new. -/
theorem ofVals_fresh {before rest : List ν} {v : ν}
    (h : ((before ++ v :: rest).map key).Nodup) :
    (ofVals key before).contains (key v) = false := by
  rw [Bool.eq_false_iff, Ne, contains_ofVals]
  rintro ⟨w, hw, hk⟩
  rw [List.map_append, List.nodup_append] at h
  exact h.2.2 (key w) (List.mem_map.mpr ⟨w, hw, rfl⟩) (key v) (by simp) hk

/-- The values of a keyed map are listed in ascending order of their keys. -/
theorem Keyed.ascending {m : OrdMap κ ν} (h : Keyed key m) :
    m.vals.Pairwise fun v w => compare (key v) (key w) = .lt := by
  rw [vals, List.pairwise_map]
  refine (Std.ExtTreeMap.ordered_keys_toList (t := m)).imp_of_mem fun {a b} ha hb hab => ?_
  rw [Std.ExtTreeMap.mem_toList_iff_getElem?_eq_some] at ha hb
  rwa [h _ _ ha, h _ _ hb]

/-- Two lists in ascending order with the same values are equal. -/
theorem eq_of_ascending {xs ys : List ν}
    (hx : xs.Pairwise fun v w => compare (key v) (key w) = .lt)
    (hy : ys.Pairwise fun v w => compare (key v) (key w) = .lt)
    (hmem : ∀ v, v ∈ xs ↔ v ∈ ys) : xs = ys := by
  have hne : ∀ {v w : ν}, compare (key v) (key w) = .lt → v ≠ w := by
    rintro v w h rfl
    exact absurd (h.symm.trans (Std.ReflCmp.compare_self (a := key v))) (by decide)
  refine List.Perm.eq_of_pairwise (fun v w _ _ hvw hwv => ?_) hx hy
    ((List.perm_ext_iff_of_nodup (hx.imp hne) (hy.imp hne)).mpr hmem)
  have hswap : compare (key w) (key v) = (compare (key v) (key w)).swap :=
    Std.OrientedCmp.eq_swap
  rw [hswap, hvw] at hwv
  cases hwv

/-- What a test keeps of a rebuilt map, in ascending order of the keys. -/
theorem filter_vals_ofVals {values kept : List ν} {p : ν → Bool}
    (h : (values.map key).Nodup) (hmem : ∀ v, v ∈ kept ↔ v ∈ values ∧ p v = true)
    (hkept : kept.Pairwise fun v w => compare (key v) (key w) = .lt) :
    (ofVals key values).vals.filter p = kept := by
  refine eq_of_ascending ((keyed_ofVals h).ascending.filter p) hkept fun v => ?_
  rw [List.mem_filter, mem_vals, hmem]
  refine and_congr_left fun _ => ?_
  constructor
  · rintro ⟨k, hk⟩
    exact ((get_ofVals h k v).mp hk).1
  · intro hv
    exact ⟨key v, (get_ofVals h _ v).mpr ⟨hv, rfl⟩⟩

theorem vals_ofVals {values : List ν}
    (h : values.Pairwise fun v w => compare (key v) (key w) = .lt) :
    (ofVals key values).vals = values := by
  have hnodup : (values.map key).Nodup := by
    rw [List.Nodup, List.pairwise_map]
    refine h.imp fun {v w} hvw he => ?_
    rw [he] at hvw
    exact absurd (hvw.symm.trans (Std.ReflCmp.compare_self (a := key w))) (by decide)
  have hfilter := filter_vals_ofVals (p := fun _ => true) hnodup (fun v => by simp) h
  rwa [List.filter_eq_self.mpr (fun _ _ => rfl)] at hfilter

end Keyed

/-! ## Sums over the values -/

section Sum

variable {M : Type} [AddCommMonoid M] (f : ν → M)

/-- The sum of `f` over the values. -/
def sumOver (m : OrdMap κ ν) : M := (m.vals.map f).sum

omit [Std.LawfulEqOrd κ] in
/-- A sum over mapped values is a sum over the values. -/
theorem sumOver_mapVals {μ : Type} (g : μ → M) (h : ν → μ) (m : OrdMap κ ν) :
    sumOver g (mapVals h m) = sumOver (fun v => g (h v)) m := by
  simp [sumOver, vals, mapVals, Std.ExtTreeMap.toList_map, List.map_map, Function.comp_def]

theorem sumOver_congr {g : ν → M} (m : OrdMap κ ν)
    (h : ∀ (k : κ) (v : ν), m[k]? = some v → f v = g v) : sumOver f m = sumOver g m := by
  unfold sumOver
  refine congrArg List.sum (List.map_congr_left fun v hv => ?_)
  obtain ⟨k, hk⟩ := mem_vals.mp hv
  exact h k v hk

/-- A fresh key adds its value's share. -/
theorem sumOver_insert_fresh (m : OrdMap κ ν) {k : κ} (v : ν) (h : m[k]? = none) :
    sumOver f (m.insert k v) = f v + sumOver f m := by
  have hp := ((toList_insert_perm m v h).map Prod.snd).map f
  simpa [sumOver, vals] using hp.sum_eq

/-- A removed key takes its value's share along. -/
theorem sumOver_erase (m : OrdMap κ ν) {k : κ} {v : ν} (h : m[k]? = some v) :
    sumOver f m = f v + sumOver f (m.erase k) := by
  have hp := ((toList_erase_perm m h).map Prod.snd).map f
  simpa [sumOver, vals] using hp.sum_eq

/-- Overwriting a key replaces the old value's share by the new one's. -/
theorem sumOver_insert_found (m : OrdMap κ ν) {k : κ} {v : ν} (w : ν)
    (h : m[k]? = some v) :
    f v + sumOver f (m.insert k w) = f w + sumOver f m := by
  rw [← insert_erase, sumOver_insert_fresh f _ w (get_erase_self m k),
      sumOver_erase f m h]
  exact add_left_comm _ _ _

end Sum

end OrdMap

end Banck.Lib
