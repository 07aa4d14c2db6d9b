import Mathlib.Data.List.Forall2
import Mathlib.Data.List.Perm.Basic
import Excerpt.Json.Basic

/-! The fields of an object. They do not depend on the order of its members, nor on members of other
names. -/
namespace Excerpt.Json

/-! ## Reading every item of a list -/

section MapM

variable {α β : Type} {f : α → Option β} {items : List α}

theorem mapM_eq_some_iff {results : List β} :
    items.mapM f = some results ↔
      List.Forall₂ (fun item result => f item = some result) items results := by
  induction items generalizing results with
  | nil => simp
  | cons item items ih =>
    rw [List.mapM_cons, Option.bind_eq_bind, Option.bind_eq_some_iff]
    constructor
    · rintro ⟨result, hitem, hitems⟩
      obtain ⟨rest, hrest, hresults⟩ := Option.bind_eq_some_iff.mp hitems
      obtain rfl : result :: rest = results := Option.some.inj hresults
      exact .cons hitem (ih.mp hrest)
    · rintro (_ | ⟨hitem, hitems⟩)
      exact ⟨_, hitem, by rw [ih.mpr hitems]; rfl⟩

theorem mapM_eq_none_iff : items.mapM f = none ↔ ∃ item ∈ items, f item = none := by
  induction items with
  | nil => simp
  | cons item items ih =>
    rw [List.mapM_cons, List.exists_mem_cons_iff, ← ih]
    cases hitem : f item with
    | none => simp
    | some result =>
      cases hitems : items.mapM f with
      | none => simp
      | some results => simp

theorem mapM_bind_mapM {γ : Type} (g : β → Option γ) :
    ((items.mapM f).bind fun results => results.mapM g) =
      items.mapM fun item => (f item).bind g := by
  induction items with
  | nil => rfl
  | cons item items ih =>
    rw [List.mapM_cons, List.mapM_cons, ← ih]
    cases hitem : f item with
    | none => rfl
    | some result =>
      cases hitems : items.mapM f with
      | none =>
        change none = (g result).bind fun _ => none
        cases g result <;> rfl
      | some results =>
        change (result :: results).mapM g = _
        rw [List.mapM_cons]
        rfl

/-- The results of a list behind those that came before, last first. -/
theorem map_mapM_cons {γ : Type} (item : α) (done : List β) (g : List β → γ) :
    ((item :: items).mapM f).map (fun results => g (done.reverse ++ results)) =
      (f item).bind fun result =>
        (items.mapM f).map fun results => g ((result :: done).reverse ++ results) := by
  rw [List.mapM_cons]
  cases f item with
  | none => rfl
  | some result =>
    cases items.mapM f with
    | none => rfl
    | some results => simp

theorem mapM_congr {g : α → Option β} (h : ∀ item ∈ items, f item = g item) :
    items.mapM f = items.mapM g := by
  induction items with
  | nil => rfl
  | cons item items ih =>
    obtain ⟨hitem, hitems⟩ := List.forall_mem_cons.mp h
    rw [List.mapM_cons, List.mapM_cons, hitem, ih hitems]

end MapM

/-! ## Fields by their names -/

/-- Members that are some known ones, in any order and among others that have none of `names`. -/
def Holds (names : List String) (known members : List (String × Json)) : Prop :=
  ∃ extra, members.Perm (known ++ extra) ∧ ∀ member ∈ extra, member.1 ∉ names

theorem holds_self (names : List String) (known : List (String × Json)) :
    Holds names known known :=
  ⟨[], by rw [List.append_nil], by simp⟩

/-- The members with one of `names` are all that counts for them. -/
theorem holds_filter (names : List String) (members : List (String × Json)) :
    Holds names (members.filter fun member => member.1 ∈ names) members := by
  refine ⟨members.filter fun member => !decide (member.1 ∈ names), ?_, ?_⟩
  · exact (List.filter_append_perm (fun member => decide (member.1 ∈ names)) members).symm
  · intro member hmember
    simpa using (List.mem_filter.mp hmember).2

variable {names names' : List String} {known members : List (String × Json)}

theorem mem_of_fields? {values : List (Option Json)} (h : fields? names members = some values) :
    List.Forall₂ (fun name value => ∀ v ∈ value, (name, v) ∈ members) names values := by
  have hfields := mapM_eq_some_iff.mp h
  refine hfields.imp ?_
  intro name value hvalue v hv
  rw [Option.mem_def.mp hv] at hvalue
  split at hvalue
  · simp at hvalue
  · rename_i member hfilter
    have hmem : member ∈ members.filter fun member => member.1 == name := by
      rw [hfilter]
      exact List.mem_singleton_self member
    obtain ⟨hmember, hname⟩ := List.mem_filter.mp hmem
    obtain ⟨rfl⟩ : member.2 = v := by simpa using hvalue
    rw [← eq_of_beq hname]
    exact hmember
  · simp at hvalue

theorem Holds.filter_perm (h : Holds names known members) {name : String} (hname : name ∈ names) :
    (members.filter fun member => member.1 == name).Perm
      (known.filter fun member => member.1 == name) := by
  obtain ⟨extra, hperm, hextra⟩ := h
  have hnone : (extra.filter fun member => member.1 == name) = [] := by
    rw [List.filter_eq_nil_iff]
    intro member hmember heq
    exact hextra member hmember (eq_of_beq heq ▸ hname)
  have hfilter := hperm.filter fun member => member.1 == name
  rwa [List.filter_append, hnone, List.append_nil] at hfilter

theorem Holds.fields?_eq (h : Holds names known members) (hsub : ∀ name ∈ names', name ∈ names) :
    fields? names' members = fields? names' known := by
  unfold fields?
  induction names' with
  | nil => rfl
  | cons name rest ih =>
    have hperm := h.filter_perm (hsub name List.mem_cons_self)
    have hrest := ih fun name hname => hsub name (List.mem_cons_of_mem _ hname)
    rw [List.mapM_cons, List.mapM_cons, hrest]
    congr 1
    -- two lists of at most one member are the same list, longer ones are both refused
    match hknown : known.filter fun member => member.1 == name with
    | [] =>
      rw [hknown] at hperm
      rw [hperm.eq_nil, hknown]
    | [member] =>
      rw [hknown] at hperm
      rw [hperm.eq_singleton, hknown]
    | first :: second :: others =>
      rw [hknown] at hperm
      have hlength := hperm.length_eq
      match hmembers : members.filter fun member => member.1 == name with
      | [] => simp [hmembers] at hlength
      | [member] => simp [hmembers] at hlength
      | first' :: second' :: others' => rw [hmembers, hknown]

end Excerpt.Json
