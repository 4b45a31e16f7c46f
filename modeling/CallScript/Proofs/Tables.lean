import CallScript.Registry

/-! Tables of functions as everything that is asked of a registry sees them: no key occurs twice, and each
function stands under its own name. So the view of a table, the merge of two and the sorted listing agree
about every name. -/
namespace CallScript

namespace Dictionary

variable {α : Type}

def Distinct (d : Dictionary α) : Prop := d.keys.Nodup

theorem putInKeys (key : String) (value : α) (entries : List (String × α)) :
    (putIn key value entries).map Prod.fst =
      if key ∈ entries.map Prod.fst then entries.map Prod.fst else entries.map Prod.fst ++ [key] := by
  induction entries with
  | nil => rfl
  | cons entry rest ih =>
    obtain ⟨k, v⟩ := entry
    rw [putIn]
    by_cases here : k = key
    · simp [here]
    · simp only [if_neg here, List.map_cons, ih, List.mem_cons, Ne.symm here, false_or]
      split <;> rfl

theorem putDistinct {d : Dictionary α} (distinct : d.Distinct) (key : String) (value : α) :
    (d.put key value).Distinct := by
  rw [Distinct, keys, put, putInKeys]
  split
  · exact distinct
  · rename_i fresh
    refine List.nodup_append.mpr ⟨distinct, by simp, ?_⟩
    rintro k mem _ single rfl
    exact fresh (List.mem_singleton.mp single ▸ mem)

theorem putEntries {d : Dictionary α} {key : String} {value : α} {entry : String × α}
    (mem : entry ∈ (d.put key value).entries) : entry = (key, value) ∨ entry ∈ d.entries := by
  obtain ⟨entries⟩ := d
  simp only [put] at mem ⊢
  induction entries with
  | nil => exact .inl (List.mem_singleton.mp mem)
  | cons first rest ih =>
    obtain ⟨k, v⟩ := first
    rw [putIn] at mem
    split at mem
    · rename_i same
      rw [same] at mem
      exact (List.mem_cons.mp mem).imp id (List.mem_cons_of_mem _)
    · rcases List.mem_cons.mp mem with rfl | mem
      · exact .inr List.mem_cons_self
      · exact (ih mem).imp id (List.mem_cons_of_mem _)

theorem lookupInAbsent {key : String} {entries : List (String × α)} (absent : key ∉ entries.map Prod.fst) :
    lookupIn key entries = none := by
  induction entries with
  | nil => rfl
  | cons entry rest ih =>
    simp only [List.map_cons, List.mem_cons, not_or] at absent
    rw [lookupIn, if_neg (Ne.symm absent.1), ih absent.2]

theorem entriesUnder {d : Dictionary α} (distinct : d.Distinct) (key : String) :
    d.entries.filter (fun entry => entry.1 == key) = (d.get? key).toList.map (fun v => (key, v)) := by
  obtain ⟨entries⟩ := d
  simp only [Distinct, keys, get?] at distinct ⊢
  induction entries with
  | nil => rfl
  | cons entry rest ih =>
    obtain ⟨k, v⟩ := entry
    obtain ⟨fresh, distinct⟩ := List.nodup_cons.mp distinct
    have others := ih distinct
    by_cases here : k = key
    · subst here
      rw [lookupInAbsent fresh] at others
      simp [lookupIn, others]
    · simp [lookupIn, here, others]

theorem overlaid {entries : List (String × α)} (distinct : (entries.map Prod.fst).Nodup) (lower : Dictionary α)
    (key : String) : (entries.foldl (fun d entry => d.put entry.1 entry.2) lower).get? key =
      (lookupIn key entries).or (lower.get? key) := by
  induction entries generalizing lower with
  | nil => rfl
  | cons entry rest ih =>
    obtain ⟨k, v⟩ := entry
    obtain ⟨fresh, distinct⟩ := List.nodup_cons.mp distinct
    rw [List.foldl_cons, ih distinct, get?_put, lookupIn]
    by_cases here : k = key
    · subst here
      rw [lookupInAbsent fresh]
      simp
    · simp [here]

theorem get?_overlay (lower : Dictionary α) {upper : Dictionary α} (distinct : upper.Distinct) (key : String) :
    (lower.overlay upper).get? key = (upper.get? key).or (lower.get? key) :=
  overlaid distinct lower key

theorem overlayKeeps {P : Dictionary α → Prop} {lower upper : Dictionary α} (holds : P lower)
    (puts : ∀ d entry, entry ∈ upper.entries → P d → P (d.put entry.1 entry.2)) : P (lower.overlay upper) := by
  obtain ⟨entries⟩ := upper
  simp only [overlay] at puts ⊢
  induction entries generalizing lower with
  | nil => exact holds
  | cons entry rest ih =>
    exact ih (puts lower entry List.mem_cons_self holds)
      (fun d other mem => puts d other (List.mem_cons_of_mem _ mem))

end Dictionary

structure Table.Keyed (t : Table) : Prop where
  distinct : Dictionary.Distinct t
  named : ∀ entry ∈ t.entries, entry.2.name = entry.1

theorem emptyKeyed : Table.Keyed Dictionary.empty :=
  ⟨List.nodup_nil, fun _ mem => absurd mem List.not_mem_nil⟩

theorem putKeyed {t : Table} (keyed : Table.Keyed t) (f : Function) : Table.Keyed (t.put f.name f) := by
  refine ⟨Dictionary.putDistinct keyed.distinct _ _, fun entry mem => ?_⟩
  rcases Dictionary.putEntries mem with rfl | mem
  · rfl
  · exact keyed.named entry mem

theorem overlayKeyed {lower upper : Table} (first : Table.Keyed lower) (second : Table.Keyed upper) :
    Table.Keyed (lower.overlay upper) := by
  refine Dictionary.overlayKeeps first (fun d entry mem keyed => ?_)
  rw [← second.named entry mem]
  exact putKeyed keyed entry.2

theorem listedOnce {t : Table} (keyed : Table.Keyed t) (name : String) :
    (t.sorted.map Prod.snd).filter (fun f => f.name == name) = (t.get? name).toList := by
  have sorted : List.Perm t.sorted t.entries := List.mergeSort_perm _ _
  have found : t.sorted.filter (fun entry => entry.1 == name) = (t.get? name).toList.map (fun f => (name, f)) := by
    have listed := sorted.filter (fun entry => entry.1 == name)
    rw [Dictionary.entriesUnder keyed.distinct] at listed
    cases here : t.get? name with
    | none => rw [here] at listed; exact List.perm_nil.mp listed
    | some f => rw [here] at listed; exact List.perm_singleton.mp listed
  have same : t.sorted.filter (fun entry => entry.2.name == name) = t.sorted.filter (fun entry => entry.1 == name) :=
    List.filter_congr (fun entry mem => by rw [keyed.named entry (sorted.mem_iff.mp mem)])
  rw [List.filter_map]
  change (t.sorted.filter (fun entry => entry.2.name == name)).map Prod.snd = _
  rw [same, found, List.map_map]
  exact List.map_id _

end CallScript
