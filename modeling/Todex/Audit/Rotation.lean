import Todex.Audit.Log

/-!
# A rotation that fails

A rotation renames the live file to a staging name, shifts the rotated files and puts the staged file in front. A rename
that fails moves the live file back, but not the files that were shifted before it, and a crash leaves the staged file,
which every later rotation finds in its way.
-/

namespace Todex

inductive AuditFile
  | live
  | staged
  | rotated (index : ℕ)
  deriving DecidableEq

/-- The records in the files of a directory. -/
structure AuditDirectory where
  records : AuditFile → Option (List Bytes)

/-- How a rotation ends, but for the checks that it makes first. -/
inductive RotationEnd
  | completes
  /-- The rename of this number fails. -/
  | fails (number : ℕ)
  /-- The process ends after so many renames. -/
  | crashes (number : ℕ)

/-- The renames of `rotate`, in order. -/
def rotationRenames : List (AuditFile × AuditFile) :=
  (.live, .staged) ::
    ((List.range (retainedAuditFiles - 1)).reverse.map fun i => (.rotated (i + 1), .rotated (i + 2))) ++
      [(.staged, .rotated 1)]

namespace AuditDirectory

variable (self : AuditDirectory)

/-- `fs::rename`, which changes nothing if there is no such file. -/
def rename (source target : AuditFile) : AuditDirectory where
  records file :=
    if file = source then none
    else if file = target then (self.records source).or (self.records target)
    else self.records file

def after (number : ℕ) : AuditDirectory :=
  (rotationRenames.take number).foldl (fun self files => self.rename files.1 files.2) self

/-- There is a staged file or no live one, and a rotation leaves the directory as it is. -/
def Refuses : Prop := (self.records .staged).isSome ∨ (self.records .live).isNone

instance : Decidable self.Refuses := inferInstanceAs (Decidable (_ ∨ _))

/-- `rotate`, and whether all of its renames were made. -/
def rotate (ending : RotationEnd) : Bool × AuditDirectory :=
  if self.Refuses then (false, self)
  else
    match ending with
    | .completes => (true, self.after rotationRenames.length)
    | .fails 0 => (false, self)
    | .fails number =>
      if number < rotationRenames.length then (false, (self.after number).rename .staged .live)
      else (true, self.after rotationRenames.length)
    | .crashes number => (rotationRenames.length ≤ number, self.after number)

/-- One of the files holds the record. -/
def Holds (record : Bytes) : Prop := ∃ file, ∃ records ∈ self.records file, record ∈ records

/-- The live file as later appends leave it. -/
def append (records : List Bytes) : AuditDirectory where
  records := Function.update self.records .live (some records)

/-- The records of the live file. -/
def live : List Bytes := (self.records .live).getD []

/-- The length of the live file. -/
def liveLen : ℕ := (self.live.map List.length).sum

/-- `append_line` on the open file, which was opened at its length. A rotation that fails is tried again from `retryAt`
on, and a process that ends in it writes nothing. -/
def appendLine (now : ℕ) (retryAt : Option ℕ) (ending : RotationEnd) (line : Bytes) : AuditDirectory :=
  if 0 < self.liveLen ∧ maxAuditFileBytes < self.liveLen + line.length ∧ retryAt.all (· ≤ now) then
    let dir := (self.rotate ending).2
    match ending with
    | .crashes _ => dir
    | _ => dir.append (dir.live ++ [line])
  else self.append (self.live ++ [line])

/-- The rotation does not stop between the rename that replaces the oldest file and its end, or that rename replaces no
record which only the oldest file holds. -/
def KeepsOldest : RotationEnd → Prop
  | .completes => True
  | .fails number | .crashes number =>
    number ≤ 1 ∨ rotationRenames.length ≤ number ∨ self.records (.rotated 2) = none ∨
      ∀ oldest ∈ self.records (.rotated 3), ∀ record ∈ oldest, ∃ file ≠ .rotated 3, ∃ records ∈ self.records file,
        record ∈ records

end AuditDirectory

/-- The process does not end while the live file is staged. -/
def RotationEnd.Unstaged : RotationEnd → Prop
  | crashes number => number = 0 ∨ rotationRenames.length ≤ number
  | _ => True

namespace AuditDirectory

variable {dir before : AuditDirectory} {record : Bytes}

/-! ### Which records a rotation keeps -/

/-- A rename keeps the records of every file but the one it replaces. -/
lemma holds_rename {file : AuditFile} {r : List Bytes} (hr : r ∈ dir.records file) (hm : record ∈ r)
    (hne : source ≠ target) (ht : file ≠ target ∨ dir.records source = none) :
    (dir.rename source target).Holds record := by
  by_cases hs : file = source
  · subst hs
    refine ⟨target, r, ?_, hm⟩
    simp [AuditDirectory.rename, hne.symm, Option.mem_def.1 hr]
  · refine ⟨file, r, ?_, hm⟩
    by_cases hf : file = target
    · subst hf
      have hn := ht.resolve_left fun h => h rfl
      simp [AuditDirectory.rename, hs, hn, Option.mem_def.1 hr]
    · simpa [AuditDirectory.rename, hs, hf] using hr

lemma Holds.rename (h : dir.Holds record) (hne : source ≠ target) (ht : dir.records target = none) :
    (dir.rename source target).Holds record := by
  obtain ⟨file, r, hr, hm⟩ := h
  refine holds_rename hr hm hne (.inl ?_)
  rintro rfl
  cases ht.symm.trans hr

lemma after_of_le (h : rotationRenames.length ≤ number) : dir.after number = dir.after rotationRenames.length := by
  rw [after, List.take_of_length_le h, after, List.take_length]

/-- A record that another file than the oldest holds, or one of the oldest that is not replaced. -/
lemma holds_after {file : AuditFile} {r : List Bytes} (hr : r ∈ dir.records file) (hm : record ∈ r)
    (hs : dir.records .staged = none)
    (ho : 1 < number → file ≠ .rotated 3 ∨ dir.records (.rotated 2) = none)
    (hle : number ≤ rotationRenames.length) : (dir.after number).Holds record := by
  have h₁ : (dir.after 1).Holds record := Holds.rename ⟨file, r, hr, hm⟩ (by decide) hs
  have h₂ (hlt : 1 < number) : (dir.after 2).Holds record := by
    rcases ho hlt with hne | hnone
    · by_cases hlive : file = .live
      · subst hlive
        have hstaged : r ∈ (dir.after 1).records .staged := by
          simp [after, rotationRenames, AuditDirectory.rename, Option.mem_def.1 hr]
        exact holds_rename hstaged hm (by decide) (.inl (by decide))
      · have hkept : r ∈ (dir.after 1).records file := by
          have hfile : file ≠ .staged := by
            rintro rfl
            cases hs.symm.trans hr
          simpa [after, rotationRenames, AuditDirectory.rename, hlive, hfile] using hr
        exact holds_rename hkept hm (by decide) (.inl hne)
    · obtain ⟨f, r', hr', hm'⟩ := h₁
      exact holds_rename hr' hm' (by decide) (.inr hnone)
  have h₃ (hlt : 1 < number) : (dir.after 3).Holds record := (h₂ hlt).rename (by decide) rfl
  match number, hle with
  | 0, _ => exact ⟨file, r, hr, hm⟩
  | 1, _ => exact h₁
  | 2, _ => exact h₂ (by decide)
  | 3, _ => exact h₃ (by decide)
  | 4, _ => exact (h₃ (by decide)).rename (by decide) rfl

/-- The live file is staged by the first rename, and the others leave its name alone. -/
lemma live_after (hp : number ≠ 0) (hle : number ≤ rotationRenames.length) :
    (dir.after number).records .live = none := by
  match number, hle with
  | 0, _ => exact absurd rfl hp
  | 1, _ | 2, _ | 3, _ | 4, _ => rfl

/-- A rotation that stops halfway and has lost nothing of the oldest file. -/
lemma Holds.after_of_stopped (h : dir.Holds record) (hs : dir.records .staged = none)
    (hk : dir.KeepsOldest (.crashes number)) (hlt : number < rotationRenames.length) :
    (dir.after number).Holds record := by
  obtain ⟨file, r, hr, hm⟩ := h
  rcases hk with hle | hle | hnone | helse
  · exact holds_after hr hm hs (fun h => absurd h (not_lt.2 hle)) hlt.le
  · exact absurd hlt (not_lt.2 hle)
  · exact holds_after hr hm hs (fun _ => .inr hnone) hlt.le
  · by_cases hfile : file = .rotated 3
    · subst hfile
      obtain ⟨other, hne, r', hr', hm'⟩ := helse r hr record hm
      exact holds_after hr' hm' hs (fun _ => .inl hne) hlt.le
    · exact holds_after hr hm hs (fun _ => .inl hfile) hlt.le

/-- A rotation that has made all of its renames has replaced the oldest file only. -/
lemma Holds.after_all (h : dir.Holds record) (hs : dir.records .staged = none) :
    (dir.after rotationRenames.length).Holds record ∨ ∃ r ∈ dir.records (.rotated 3), record ∈ r := by
  obtain ⟨file, r, hr, hm⟩ := h
  by_cases hfile : file = .rotated 3
  · exact .inr ⟨r, hfile ▸ hr, hm⟩
  · exact .inl (holds_after hr hm hs (fun _ => .inl hfile) le_rfl)

lemma refuses_iff : dir.Refuses ↔ (dir.records .staged = none → dir.records .live = none) := by
  simp [Refuses, Option.isSome_iff_ne_none, imp_iff_not_or]

lemma rotate_of_refuses (h : dir.Refuses) : dir.rotate ending = (false, dir) := if_pos h

lemma Holds.rotate (h : dir.Holds record) (hk : dir.Refuses ∨ dir.KeepsOldest ending) :
    (dir.rotate ending).2.Holds record ∨ (dir.rotate ending).1 ∧ ∃ r ∈ dir.records (.rotated 3), record ∈ r := by
  unfold AuditDirectory.rotate
  split_ifs with hg
  · exact .inl h
  · obtain ⟨hs, -⟩ := Classical.not_imp.1 (mt refuses_iff.2 hg)
    have ha := h.after_all hs
    have hk := hk.resolve_left hg
    match ending with
    | .completes => exact ha.imp_right fun h => ⟨rfl, h⟩
    | .fails 0 => exact .inl h
    | .fails (n + 1) =>
      simp only
      split_ifs with hlt
      · exact .inl ((h.after_of_stopped hs hk hlt).rename (by decide) (live_after (Nat.succ_ne_zero _) hlt.le))
      · exact ha.imp_right fun h => ⟨rfl, h⟩
    | .crashes n =>
      by_cases hle : rotationRenames.length ≤ n
      · simp only [after_of_le hle]
        exact ha.imp_right fun h => ⟨decide_eq_true hle, h⟩
      · exact .inl (h.after_of_stopped hs hk (not_le.1 hle))

/-! ### Which records are lost -/

/-- What the files hold comes from files other than the oldest. -/
def WithoutOldest (dir before : AuditDirectory) : Prop :=
  ∀ file, ∀ r ∈ dir.records file, ∃ file' ≠ .rotated 3, r ∈ before.records file'

lemma WithoutOldest.rename (h : dir.WithoutOldest before) (source target : AuditFile) :
    (dir.rename source target).WithoutOldest before := by
  intro file r hr
  simp only [AuditDirectory.rename] at hr
  split_ifs at hr with hs ht
  · cases hr
  · rcases Option.or_eq_some_iff.1 hr with hr | ⟨-, hr⟩
    · exact h source r hr
    · exact h target r hr
  · exact h file r hr

/-- Once the oldest file is replaced, what is left comes from the other ones. -/
lemma withoutOldest_after (h : before.records (.rotated 2) ≠ none) (hgt : 1 < number)
    (hlt : number < rotationRenames.length) : (before.after number).WithoutOldest before := by
  have h₂ : (before.after 2).WithoutOldest before := by
    obtain ⟨second, hsecond⟩ := Option.ne_none_iff_exists'.1 h
    -- The live file is staged and the second one takes the place of the oldest.
    intro file r hr
    by_cases hlive : file = .live ∨ file = .rotated 2
    · rcases hlive with rfl | rfl <;> cases hr
    obtain ⟨hlive, htwo⟩ := not_or.1 hlive
    by_cases hstaged : file = .staged
    · subst hstaged
      rcases Option.or_eq_some_iff.1 hr with hr | ⟨-, hr⟩
      · exact ⟨.live, by decide, hr⟩
      · exact ⟨.staged, by decide, hr⟩
    have hfirst : (before.after 1).records file = before.records file := by
      simp [after, rotationRenames, AuditDirectory.rename, hlive, hstaged]
    by_cases holdest : file = .rotated 3
    · subst holdest
      refine ⟨.rotated 2, by decide, ?_⟩
      rcases Option.or_eq_some_iff.1 hr with hr | ⟨hnone, -⟩
      · exact hr
      · exact absurd hnone (by simp [AuditDirectory.rename, hsecond])
    · refine ⟨file, holdest, hfirst ▸ ?_⟩
      rw [show before.after 2 = (before.after 1).rename (.rotated 2) (.rotated 3) from rfl] at hr
      simpa [AuditDirectory.rename, htwo, holdest] using hr
  match number, hlt with
  | 2, _ => exact h₂
  | 3, _ => exact h₂.rename _ _

/-- A rotation that stops after it has replaced the oldest file. -/
lemma withoutOldest_rotate (hr : ¬ dir.Refuses) (hk : ¬ dir.KeepsOldest ending) :
    (dir.rotate ending).1 = false ∧ (dir.rotate ending).2.WithoutOldest dir := by
  unfold rotate
  rw [if_neg hr]
  match ending with
  | .completes => exact absurd trivial hk
  | .fails 0 => exact absurd (.inl (Nat.zero_le _)) hk
  | .fails (n + 1) =>
    obtain ⟨hgt, hlt, hnone, -⟩ := by simpa only [KeepsOldest, not_or] using hk
    simp only [if_pos (not_le.1 hlt)]
    exact ⟨trivial, (withoutOldest_after hnone (not_le.1 hgt) (not_le.1 hlt)).rename _ _⟩
  | .crashes n =>
    obtain ⟨hgt, hlt, hnone, -⟩ := by simpa only [KeepsOldest, not_or] using hk
    exact ⟨decide_eq_false hlt, withoutOldest_after hnone (not_le.1 hgt) (not_le.1 hlt)⟩

/-- A record that only the oldest file holds, in a rotation that may lose it. -/
lemma exists_only_oldest (hk : ¬ dir.KeepsOldest ending) : ∃ record, dir.Holds record ∧
    ∀ file ≠ .rotated 3, ∀ r ∈ dir.records file, record ∉ r := by
  cases ending with
  | completes => exact absurd trivial hk
  | fails n | crashes n =>
    obtain ⟨-, -, -, h⟩ := by simpa only [KeepsOldest, not_or] using hk
    push Not at h
    obtain ⟨oldest, holdest, record, hmem, honly⟩ := h
    exact ⟨record, ⟨.rotated 3, oldest, holdest, hmem⟩, honly⟩

/-! ### Later appends -/

/-- A file is staged after a rotation if there was one, or if the process ends while the live file is staged. -/
lemma staged_rotate_iff : (dir.rotate ending).2.records .staged = none ↔
    dir.records .staged = none ∧ (dir.records .live = none ∨ ending.Unstaged) := by
  by_cases hg : dir.Refuses
  · rw [rotate_of_refuses hg, iff_self_and]
    exact fun hs => .inl (refuses_iff.1 hg hs)
  · obtain ⟨hs, hl⟩ := Classical.not_imp.1 (mt refuses_iff.2 hg)
    rw [and_iff_right hs, or_iff_right hl]
    unfold rotate
    rw [if_neg hg]
    match ending with
    | .completes => exact iff_of_true rfl trivial
    | .fails 0 => exact iff_of_true hs trivial
    | .fails (n + 1) =>
      simp only
      split_ifs <;> exact iff_of_true rfl trivial
    | .crashes n =>
      by_cases hle : rotationRenames.length ≤ n
      · refine iff_of_true ?_ (.inr hle)
        simp only [after_of_le hle]
        rfl
      · match n, not_le.1 hle with
        | 0, _ => exact iff_of_true hs (.inl rfl)
        | 1, _ | 2, _ | 3, _ =>
          refine iff_of_false (fun h => hl (Option.or_eq_none_iff.1 h).1) ?_
          exact fun h => h.elim (Nat.succ_ne_zero _) hle

lemma liveLen_append (records : List Bytes) : (dir.append records).liveLen = (records.map List.length).sum := by
  simp [liveLen, live, append]

/-- An append whose rotation succeeds leaves a live file within the limit, or one with its line only. -/
lemma liveLen_appendLine_le (hs : dir.records .staged = none) (hl : dir.records .live ≠ none) {now : ℕ}
    {retryAt : Option ℕ} (hdue : retryAt.all (· ≤ now)) (line : Bytes) :
    (dir.appendLine now retryAt .completes line).liveLen ≤ max maxAuditFileBytes line.length := by
  unfold appendLine
  split_ifs with hd
  · have hrotated : (dir.rotate .completes).2.live = [] := by
      unfold rotate
      rw [if_neg fun hg => hl (refuses_iff.1 hg hs)]
      rfl
    simp [liveLen_append, hrotated]
  · have hfit : dir.liveLen + line.length ≤ max maxAuditFileBytes line.length := by
      rcases Nat.eq_zero_or_pos dir.liveLen with h0 | hpos
      · omega
      · by_contra hc
        exact hd ⟨hpos, by omega, hdue⟩
    rw [liveLen_append, List.map_append, List.sum_append]
    exact hfit

/-- A staged file lets the live file grow. -/
lemma liveLen_appendLine_of_staged (hs : dir.records .staged ≠ none) (records : List Bytes) (line : Bytes)
    (now : ℕ) (retryAt : Option ℕ) :
    ((dir.append records).appendLine now retryAt .completes line).liveLen =
      (records.map List.length).sum + line.length := by
  have hrotate : ((dir.append records).rotate .completes).2 = dir.append records := by
    rw [rotate, if_pos (.inl (by simpa [append, Option.isSome_iff_ne_none] using hs))]
  simp only [appendLine, hrotate, ite_self, liveLen_append]
  simp [live, append]

end AuditDirectory

/-- A rotation keeps every record, but for those of the oldest file when it completes, if and only if it refuses to
start or does not stop after it has replaced that file. Whatever has been written since, a later append whose rotation
succeeds leaves a live file within the limit or of one line, if and only if no file is staged. -/
theorem audit_rotation_safe (dir : AuditDirectory) (ending : RotationEnd) :
    ((∀ record, dir.Holds record → (dir.rotate ending).2.Holds record ∨
        (dir.rotate ending).1 ∧ ∃ records ∈ dir.records (.rotated 3), record ∈ records) ↔
      dir.Refuses ∨ dir.KeepsOldest ending) ∧
    ((∀ records line now retryAt, Option.all (· ≤ now) retryAt →
        (((dir.rotate ending).2.append records).appendLine now retryAt .completes line).liveLen ≤
          max maxAuditFileBytes line.length) ↔
      dir.records .staged = none ∧ (dir.records .live = none ∨ ending.Unstaged)) := by
  constructor
  · constructor
    · intro h
      by_contra hc
      obtain ⟨hr, hk⟩ := not_or.1 hc
      obtain ⟨hstopped, hfrom⟩ := AuditDirectory.withoutOldest_rotate hr hk
      obtain ⟨record, hheld, honly⟩ := AuditDirectory.exists_only_oldest hk
      rcases h record hheld with ⟨file, r, hr, hmem⟩ | ⟨hdone, -⟩
      · obtain ⟨file', hne, hr'⟩ := hfrom file r hr
        exact honly file' hne r hr' hmem
      · exact Bool.false_ne_true (hstopped.symm.trans hdone)
    · intro hk record hr
      exact hr.rotate hk
  · rw [← AuditDirectory.staged_rotate_iff]
    constructor
    · intro h
      by_contra hs
      have hpos : 0 < maxAuditFileBytes := by norm_num [maxAuditFileBytes]
      -- A line of that many bytes is only named, so that nothing computes it.
      obtain ⟨limit, hlimit⟩ : ∃ limit, limit = maxAuditFileBytes := ⟨_, rfl⟩
      have hgrown := h [List.replicate limit 0] [0] 0 none rfl
      rw [AuditDirectory.liveLen_appendLine_of_staged hs, ← hlimit] at hgrown
      simp only [List.map_singleton, List.sum_singleton, List.length_replicate, List.length_singleton] at hgrown
      omega
    · intro hs records line now retryAt hdue
      exact AuditDirectory.liveLen_appendLine_le (by simpa [AuditDirectory.append] using hs)
        (by simp [AuditDirectory.append]) hdue line

/-- A directory with three rotated files. -/
def fullAuditDirectory : AuditDirectory where
  records
    | .live => some [[0]]
    | .rotated 1 => some [[1]]
    | .rotated 2 => some [[2]]
    | .rotated 3 => some [[3]]
    | _ => none

/-- The third rename fails: the records of the oldest file are gone. And the process ends after the first rename: every
later append makes the live file longer. -/
theorem audit_rotation_unsafe :
    (fullAuditDirectory.Holds [3] ∧ (fullAuditDirectory.rotate (.fails 2)).1 = false ∧
      ¬ (fullAuditDirectory.rotate (.fails 2)).2.Holds [3]) ∧
    ∀ records line now retryAt,
      (((fullAuditDirectory.rotate (.crashes 1)).2.append records).appendLine now retryAt .completes line).liveLen =
        (records.map List.length).sum + line.length := by
  refine ⟨⟨⟨.rotated 3, _, rfl, by decide⟩, rfl, ?_⟩, ?_⟩
  · rintro ⟨file, records, hr, hmem⟩
    match file with
    | .live | .rotated 1 | .rotated 3 =>
      cases hr
      revert hmem
      decide
    | .staged | .rotated 0 | .rotated 2 | .rotated (index + 4) => cases hr
  · exact AuditDirectory.liveLen_appendLine_of_staged (by rintro ⟨⟩)

end Todex
