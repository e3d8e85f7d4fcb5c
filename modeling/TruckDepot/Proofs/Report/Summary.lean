import Mathlib.Algebra.Order.BigOperators.Group.List
import Mathlib.Algebra.Order.Field.Rat
import Mathlib.Data.List.Forall2
import Mathlib.Tactic.Linarith
import TruckDepot.Proofs.Quantity.Rational
import TruckDepot.Report.Summary

/-!
# The figures of a run, in exact numbers

A figure that every hour adds a part to is the sum of the parts (`Summary.ofRecords_eq_sum`), the
shortfalls are the hours that borrow (`Summary.shortfalls_ofRecords`), the peak is no higher than a
bound on every hour (`Summary.peakDraw_ofRecords_le`), and a run whose hours are no worse supplied
than those of another has figures that are no worse (`Summary.behind_ofRecords`).
-/

namespace TruckDepot

open Quantity

/-! ### Sums -/

namespace Summary

section Sums

variable {figure : Summary Rat → Rat} {part : HourRecord Rat → Rat}
  (hadd : ∀ s r, figure (s.add r) = figure s + part r)

include hadd

theorem foldl_add_eq_sum (records : List (HourRecord Rat)) (s : Summary Rat) :
    figure (records.foldl add s) = figure s + (records.map part).sum := by
  induction records generalizing s with
  | nil => exact (add_zero _).symm
  | cons r rest ih => rw [List.foldl_cons, ih, hadd, List.map_cons, List.sum_cons, add_assoc]

/-- A `figure` that starts from zero, and to which every hour adds its `part`, is the sum of the
parts. -/
theorem ofRecords_eq_sum (hstart : ∀ lowest, figure (starting lowest) = 0)
    (records : List (HourRecord Rat)) : figure (ofRecords records) = (records.map part).sum := by
  cases records with
  | nil => exact hstart 0
  | cons first rest =>
    unfold ofRecords
    dsimp only
    rw [foldl_add_eq_sum hadd, hstart, zero_add]

end Sums

theorem usage_ofRecords (records : List (HourRecord Rat)) :
    (ofRecords records).usage = (records.map (·.usage)).sum :=
  ofRecords_eq_sum (fun _ _ => rfl) (fun _ => rfl) records

theorem stored_ofRecords (records : List (HourRecord Rat)) :
    (ofRecords records).stored = (records.map (·.stored)).sum :=
  ofRecords_eq_sum (fun _ _ => rfl) (fun _ => rfl) records

theorem drawn_ofRecords (records : List (HourRecord Rat)) :
    (ofRecords records).drawn = (records.map (·.drawn)).sum :=
  ofRecords_eq_sum (fun _ _ => rfl) (fun _ => rfl) records

/-- `borrowed` is the sum over the hours that had to borrow. -/
theorem borrowed_ofRecords (records : List (HourRecord Rat)) :
    (ofRecords records).borrowed = (records.map fun r => max r.borrowed 0).sum := by
  refine ofRecords_eq_sum ?_ (fun _ => rfl) records
  intro s r
  show (if 0 < r.borrowed then s.borrowed + r.borrowed else s.borrowed) = _
  split_ifs with hshort
  · rw [max_eq_left hshort.le]
  · rw [max_eq_right (not_lt.mp hshort), add_zero]

/-- If no hour gives back to the grid, one hour that draws makes `drawn` positive. -/
theorem drawn_ofRecords_pos {records : List (HourRecord Rat)} (h : ∀ r ∈ records, 0 ≤ r.drawn)
    (hdrawn : ∃ r ∈ records, r.drawn ≠ 0) : 0 < (ofRecords records).drawn := by
  obtain ⟨r, hr, hne⟩ := hdrawn
  have hpos : 0 < r.drawn := lt_of_le_of_ne (h r hr) hne.symm
  have hle : r.drawn ≤ (records.map (·.drawn)).sum := by
    refine List.single_le_sum ?_ _ (List.mem_map_of_mem hr)
    intro x hx
    obtain ⟨r', hr', rfl⟩ := List.mem_map.mp hx
    exact h r' hr'
  rw [drawn_ofRecords]
  exact hpos.trans_le hle

/-! ### Shortfalls -/

theorem shortfalls_foldl_add (records : List (HourRecord Rat)) (s : Summary Rat) :
    (records.foldl add s).shortfalls =
      s.shortfalls + records.countP fun r => 0 < r.borrowed := by
  induction records generalizing s with
  | nil => rfl
  | cons r rest ih =>
    have hadd : (s.add r).shortfalls =
        if 0 < r.borrowed then s.shortfalls + 1 else s.shortfalls := rfl
    rw [List.foldl_cons, ih, hadd, List.countP_cons]
    split_ifs with hshort hcount hcount
    · omega
    · exact absurd (decide_eq_true hshort) hcount
    · exact absurd (of_decide_eq_true hcount) hshort
    · omega

/-- `shortfalls` counts the hours that had to borrow. -/
theorem shortfalls_ofRecords (records : List (HourRecord Rat)) :
    (ofRecords records).shortfalls = records.countP fun r => 0 < r.borrowed := by
  cases records with
  | nil => rfl
  | cons first rest =>
    unfold ofRecords
    dsimp only
    rw [shortfalls_foldl_add]
    exact Nat.zero_add _

/-! ### The peak -/

theorem peakDraw_foldl_add_le {bound : Rat} (records : List (HourRecord Rat))
    (h : ∀ r ∈ records, r.drawn ≤ bound) {s : Summary Rat} (hs : s.peakDraw ≤ bound) :
    (records.foldl add s).peakDraw ≤ bound := by
  induction records generalizing s with
  | nil => exact hs
  | cons r rest ih =>
    refine ih (fun r' hr' => h r' (List.mem_cons_of_mem _ hr')) ?_
    show larger s.peakDraw r.drawn ≤ bound
    rw [larger_eq_max]
    exact max_le hs (h r List.mem_cons_self)

theorem peakDraw_ofRecords_le {bound : Rat} (hbound : 0 ≤ bound) {records : List (HourRecord Rat)}
    (h : ∀ r ∈ records, r.drawn ≤ bound) : (ofRecords records).peakDraw ≤ bound := by
  cases records with
  | nil => exact hbound
  | cons first rest => exact peakDraw_foldl_add_le _ h hbound

end Summary

/-! ### Runs that are worse supplied -/

/-- `r` is no better supplied than `r'`: it uses the same, ends with no more energy in the trucks or
off them, and borrows no less. -/
structure HourRecord.Behind (r r' : HourRecord Rat) : Prop where
  usage : r.usage = r'.usage
  energyInUse : r.energyInUse ≤ r'.energyInUse
  energyCharging : r.energyCharging ≤ r'.energyCharging
  borrowed : r'.borrowed ≤ r.borrowed

namespace Summary

/-- `s` is no better supplied than `s'`: of the same use, it has no fewer `shortfalls`, no less
`borrowed`, and a `lowestCharging` no higher. -/
structure Behind (s s' : Summary Rat) : Prop where
  usage : s.usage = s'.usage
  shortfalls : s'.shortfalls ≤ s.shortfalls
  borrowed : s'.borrowed ≤ s.borrowed
  lowestCharging : s.lowestCharging ≤ s'.lowestCharging

theorem behind_starting {lowest lowest' : Rat} (h : lowest ≤ lowest') :
    (starting lowest).Behind (starting lowest') :=
  ⟨rfl, le_rfl, le_rfl, h⟩

theorem Behind.add {s s' : Summary Rat} {r r' : HourRecord Rat} (h : s.Behind s')
    (hr : r.Behind r') : (s.add r).Behind (s'.add r') := by
  have hshortfalls := h.shortfalls
  have hborrowed := h.borrowed
  have hhour := hr.borrowed
  constructor
  · exact congrArg₂ (· + ·) h.usage hr.usage
  · show (if 0 < r'.borrowed then s'.shortfalls + 1 else s'.shortfalls) ≤
      if 0 < r.borrowed then s.shortfalls + 1 else s.shortfalls
    -- the first hour is short whenever the second is
    split_ifs with hshort' hshort
    · omega
    · exact absurd (hshort'.trans_le hhour) hshort
    · omega
    · exact hshortfalls
  · show (if 0 < r'.borrowed then s'.borrowed + r'.borrowed else s'.borrowed) ≤
      if 0 < r.borrowed then s.borrowed + r.borrowed else s.borrowed
    split_ifs with hshort' hshort hshort
    · exact add_le_add hborrowed hhour
    · exact absurd (hshort'.trans_le hhour) hshort
    · linarith
    · exact hborrowed
  · show smaller s.lowestCharging r.energyCharging ≤ smaller s'.lowestCharging r'.energyCharging
    rw [smaller_eq_min, smaller_eq_min]
    exact min_le_min h.lowestCharging hr.energyCharging

theorem Behind.foldl {records records' : List (HourRecord Rat)}
    (hrecords : List.Forall₂ HourRecord.Behind records records') {s s' : Summary Rat}
    (h : s.Behind s') : (records.foldl Summary.add s).Behind (records'.foldl Summary.add s') := by
  induction hrecords generalizing s s' with
  | nil => exact h
  | cons hr _ ih => exact ih (h.add hr)

/-- A run that is `Behind` in every hour is `Behind` in its figures. -/
theorem behind_ofRecords {records records' : List (HourRecord Rat)}
    (h : List.Forall₂ HourRecord.Behind records records') :
    (ofRecords records).Behind (ofRecords records') := by
  cases h with
  | nil => exact behind_starting le_rfl
  | cons hr hrest =>
    -- the rationals have no top, so the least energy starts from that of the first hour
    exact Behind.foldl (.cons hr hrest) (behind_starting hr.energyCharging)

end Summary

end TruckDepot
