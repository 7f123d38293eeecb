import Mathlib.Data.List.Nodup
import Mathlib.Data.Set.Insert

/-! What the device lists are for, over any type of devices: an ordered list of
chosen devices, an ordered list of candidates, the devices ever seen, and at most
one selected device. The selection is a device and not a position, and every
roster carries the proofs that its lists are duplicate-free and disjoint. -/
namespace LockJaw

universe u

structure Roster (Device : Type u) where
  chosen : List Device
  candidates : List Device
  seen : Set Device
  selected : Option Device
  chosen_nodup : chosen.Nodup
  candidates_nodup : candidates.Nodup
  not_both : ∀ device ∈ chosen, device ∉ candidates
  chosen_seen : ∀ device ∈ chosen, device ∈ seen
  candidates_seen : ∀ device ∈ candidates, device ∈ seen
  selected_chosen : ∀ device ∈ selected, device ∈ chosen

namespace Roster

variable {Device : Type u}

def empty : Roster Device where
  chosen := []
  candidates := []
  seen := ∅
  selected := none
  chosen_nodup := .nil
  candidates_nodup := .nil
  not_both := by simp
  chosen_seen := by simp
  candidates_seen := by simp
  selected_chosen := by simp

theorem nodup_concat {devices : List Device} {device : Device} (hNodup : devices.Nodup)
    (hFresh : device ∉ devices) : (devices ++ [device]).Nodup := by
  rw [← List.concat_eq_append]
  exact hNodup.concat hFresh

/-- A device chosen before is met for the first time. -/
def meetChosen (roster : Roster Device) (device : Device) (h : device ∉ roster.seen) :
    Roster Device where
  chosen := roster.chosen ++ [device]
  candidates := roster.candidates
  seen := insert device roster.seen
  selected := roster.selected
  chosen_nodup := nodup_concat roster.chosen_nodup fun hm => h (roster.chosen_seen _ hm)
  candidates_nodup := roster.candidates_nodup
  not_both := by
    intro other hOther
    rcases List.mem_append.mp hOther with hOther | hOther
    · exact roster.not_both other hOther
    · obtain rfl := List.mem_singleton.mp hOther
      exact fun hm => h (roster.candidates_seen _ hm)
  chosen_seen := by
    intro other hOther
    rcases List.mem_append.mp hOther with hOther | hOther
    · exact Set.mem_insert_of_mem _ (roster.chosen_seen other hOther)
    · obtain rfl := List.mem_singleton.mp hOther
      exact Set.mem_insert _ _
  candidates_seen := fun other hOther =>
    Set.mem_insert_of_mem _ (roster.candidates_seen other hOther)
  selected_chosen := fun other hOther =>
    List.mem_append_left _ (roster.selected_chosen other hOther)

/-- A device that was never chosen is met for the first time. -/
def meetCandidate (roster : Roster Device) (device : Device) (h : device ∉ roster.seen) :
    Roster Device where
  chosen := roster.chosen
  candidates := roster.candidates ++ [device]
  seen := insert device roster.seen
  selected := roster.selected
  chosen_nodup := roster.chosen_nodup
  candidates_nodup :=
    nodup_concat roster.candidates_nodup fun hm => h (roster.candidates_seen _ hm)
  not_both := by
    intro other hChosen hOther
    rcases List.mem_append.mp hOther with hOther | hOther
    · exact roster.not_both other hChosen hOther
    · obtain rfl := List.mem_singleton.mp hOther
      exact h (roster.chosen_seen _ hChosen)
  chosen_seen := fun other hOther =>
    Set.mem_insert_of_mem _ (roster.chosen_seen other hOther)
  candidates_seen := by
    intro other hOther
    rcases List.mem_append.mp hOther with hOther | hOther
    · exact Set.mem_insert_of_mem _ (roster.candidates_seen other hOther)
    · obtain rfl := List.mem_singleton.mp hOther
      exact Set.mem_insert _ _
  selected_chosen := roster.selected_chosen

/-- A candidate is picked: it becomes the last chosen device and is selected. -/
def choose [DecidableEq Device] (roster : Roster Device) (device : Device)
    (h : device ∈ roster.candidates) : Roster Device where
  chosen := roster.chosen ++ [device]
  candidates := roster.candidates.erase device
  seen := roster.seen
  selected := some device
  chosen_nodup := nodup_concat roster.chosen_nodup fun hm => roster.not_both _ hm h
  candidates_nodup := roster.candidates_nodup.erase device
  not_both := by
    intro other hOther hCandidate
    have hMem := roster.candidates_nodup.mem_erase_iff.mp hCandidate
    rcases List.mem_append.mp hOther with hOther | hOther
    · exact roster.not_both other hOther hMem.2
    · exact hMem.1 (List.mem_singleton.mp hOther)
  chosen_seen := by
    intro other hOther
    rcases List.mem_append.mp hOther with hOther | hOther
    · exact roster.chosen_seen other hOther
    · obtain rfl := List.mem_singleton.mp hOther
      exact roster.candidates_seen _ h
  candidates_seen := fun other hOther =>
    roster.candidates_seen other (List.mem_of_mem_erase hOther)
  selected_chosen := by simp

/-- A chosen device is picked again. -/
def select (roster : Roster Device) (device : Device) (h : device ∈ roster.chosen) :
    Roster Device :=
  { roster with
    selected := some device
    selected_chosen := by
      rintro _ ⟨⟩
      exact h }

/-- Some candidates are dropped. They stay seen. -/
def drop (roster : Roster Device) (kept : List Device)
    (h : kept.Sublist roster.candidates) : Roster Device :=
  { roster with
    candidates := kept
    candidates_nodup := roster.candidates_nodup.sublist h
    not_both := fun device hChosen hKept =>
      roster.not_both device hChosen (h.subset hKept)
    candidates_seen := fun device hKept => roster.candidates_seen device (h.subset hKept) }

/-- The steps of a roster, labelled with the device picked, if any. -/
inductive Step [DecidableEq Device] : Roster Device → Option Device → Roster Device → Prop where
  | stay (roster : Roster Device) : Step roster none roster
  | meetChosen (roster : Roster Device) (device : Device) (h : device ∉ roster.seen) :
      Step roster none (roster.meetChosen device h)
  | meetCandidate (roster : Roster Device) (device : Device) (h : device ∉ roster.seen) :
      Step roster none (roster.meetCandidate device h)
  | choose (roster : Roster Device) (device : Device) (h : device ∈ roster.candidates) :
      Step roster (some device) (roster.choose device h)
  | select (roster : Roster Device) (device : Device) (h : device ∈ roster.chosen) :
      Step roster (some device) (roster.select device h)
  | drop (roster : Roster Device) (kept : List Device)
      (h : kept.Sublist roster.candidates) : Step roster none (roster.drop kept h)

/-- The selection follows the picks and nothing else. -/
theorem Step.selected_eq [DecidableEq Device] {roster after : Roster Device}
    {picked : Option Device} (step : Step roster picked after) :
    after.selected = picked.or roster.selected := by
  cases step <;> rfl

/-- Only a seen device can be picked. -/
theorem Step.picked_seen [DecidableEq Device] {roster after : Roster Device} {device : Device}
    (step : Step roster (some device) after) : device ∈ roster.seen := by
  cases step with
  | choose _ hCandidate => exact roster.candidates_seen device hCandidate
  | select _ hChosen => exact roster.chosen_seen device hChosen

/-- A chosen device stays chosen. -/
theorem Step.chosen_subset [DecidableEq Device] {roster after : Roster Device}
    {picked : Option Device} (step : Step roster picked after) :
    roster.chosen ⊆ after.chosen := by
  cases step with
  | stay => exact List.Subset.refl _
  | meetChosen => exact List.subset_append_left _ _
  | meetCandidate => exact List.Subset.refl _
  | choose => exact List.subset_append_left _ _
  | select => exact List.Subset.refl _
  | drop => exact List.Subset.refl _

end Roster
end LockJaw
