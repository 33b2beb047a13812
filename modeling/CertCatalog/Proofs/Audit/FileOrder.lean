import CertCatalog.Audit
import Mathlib.Data.List.Count
import Mathlib.Data.List.Nodup

/-!
# Order of files in an audit

An audit walks through the entries once and compares each with the ones before it. Only duplicate
ids and positions in shared documents depend on what comes before, and an id is a duplicate at every
occurrence but the first, so the findings are the same in any order of the files. Entries at the end
have no influence on the issues before them.
-/

namespace CertCatalog

/-! ### Repeated items -/

/-- The items of a list that are seen again: in a list of earlier items or before in the list. -/
def repeats (seen : List String) : List String → List String
  | [] => []
  | s :: rest => (if s ∈ seen then [s] else []) ++ repeats (seen ++ [s]) rest

private theorem count_repeats (seen items : List String) (s : String) :
    (repeats seen items).count s =
      if s ∈ seen then items.count s else items.count s - 1 := by
  induction items generalizing seen with
  | nil => simp [repeats]
  | cons a items ih =>
    rw [repeats, List.count_append, ih, List.count_cons]
    by_cases ha : a = s
    · subst ha
      by_cases hseen : a ∈ seen <;> simp [hseen, Nat.add_comm]
    · have hmem : s ∈ seen ++ [a] ↔ s ∈ seen := by simp [Ne.symm ha]
      have hnone : (if a ∈ seen then [a] else []).count s = 0 := by
        split <;> simp [ha]
      simp [hmem, hnone, ha]

private theorem repeats_perm {items items' : List String} (h : items.Perm items') :
    (repeats [] items).Perm (repeats [] items') := by
  rw [List.perm_iff_count]
  intro s
  rw [count_repeats, count_repeats, h.count_eq]

/-! ### Wordings -/

/-- A text has two characters at least, and does not begin as the wording of a duplicate id. -/
def BeginsOtherwise (s : String) : Prop := 2 ≤ s.toList.length ∧ s.toList.take 2 ≠ ['d', 'u']

instance (s : String) : Decidable (BeginsOtherwise s) :=
  inferInstanceAs (Decidable (2 ≤ s.toList.length ∧ s.toList.take 2 ≠ ['d', 'u']))

private theorem BeginsOtherwise.append {s : String} (h : BeginsOtherwise s) (t : String) :
    BeginsOtherwise (s ++ t) := by
  obtain ⟨hlength, htake⟩ := h
  rw [BeginsOtherwise, String.toList_append, List.take_append_of_le_length hlength,
    List.length_append]
  exact ⟨by omega, htake⟩

namespace Finding

private theorem beginsOtherwise_message (f : Finding) :
    (∃ id, f = duplicateId id) ∨ (∃ key, f = emptyText key) ∨ BeginsOtherwise f.message := by
  cases f
  case duplicateId id => exact .inl ⟨id, rfl⟩
  case emptyText key => exact .inr (.inl ⟨key, rfl⟩)
  all_goals
    -- Each other wording begins with a fixed text, which is left when its values are taken off.
    refine .inr (.inr ?_)
    dsimp only [message]
    repeat first | decide +kernel | apply BeginsOtherwise.append

private theorem message_duplicateId (id : String) :
    (duplicateId id).message = "duplicate id '" ++ (id ++ "'") := by
  have hopen : "duplicate id '" = "duplicate id " ++ "'" := by decide
  show "duplicate id " ++ ("'" ++ id ++ "'") = _
  rw [hopen, String.append_assoc, String.append_assoc]

private theorem message_eq_duplicateId_iff {f : Finding} {id : String} :
    f.message = (duplicateId id).message ↔ f = duplicateId id := by
  constructor
  · intro h
    rcases f.beginsOtherwise_message with ⟨id', rfl⟩ | ⟨key, rfl⟩ | ⟨-, htake⟩
    · rw [message_duplicateId, message_duplicateId, String.append_right_inj,
        String.append_left_inj] at h
      rw [h]
    · -- The wordings about blank texts end in a letter, the others with an apostrophe.
      have hempty : (emptyText key).message.toList.getLast? = some 'y' := by
        show (key ++ " must not be empty").toList.getLast? = _
        rw [String.toList_append, List.getLast?_append_of_ne_nil _ (by decide)]
        decide
      have hduplicate : (duplicateId id).message.toList.getLast? = some '\'' := by
        rw [message_duplicateId, ← String.append_assoc, String.toList_append,
          List.getLast?_append_of_ne_nil _ (by decide)]
        decide
      rw [h, hduplicate] at hempty
      exact absurd hempty (by decide)
    · rw [h, message_duplicateId, String.toList_append,
        List.take_append_of_le_length (by decide)] at htake
      exact absurd (by decide) htake
  · rintro rfl
    rfl

end Finding

/-! ### Findings about an entry -/

/-- The id of an entry as a text. -/
def SourcedEntry.idText (s : SourcedEntry) : String := s.entry.text .id

namespace Audit

private theorem mem_report_iff {condition : Bool} {f g : Finding} :
    f ∈ report condition g ↔ condition = true ∧ f = g := by
  cases condition <;> simp [report]

private theorem checkUnique_eq (before : List SourcedEntry) (s : SourcedEntry) :
    checkUnique before s.entry =
      (if s.idText ∈ before.map SourcedEntry.idText then [s.idText] else []).map
        Finding.duplicateId := by
  have hany : before.any (·.entry.text .id == s.entry.text .id) =
      decide (s.idText ∈ before.map SourcedEntry.idText) := by
    rw [Bool.eq_iff_iff, List.any_eq_true, decide_eq_true_eq, List.mem_map]
    simp only [beq_iff_eq, SourcedEntry.idText]
  rw [checkUnique, hany, report]
  by_cases hmem : s.idText ∈ before.map SourcedEntry.idText
  · simp only [hmem, decide_true, if_true]
    rfl
  · simp [hmem]

/-- Of the findings about an entry, only the duplicate id depends on the entries before it. -/
theorem findings_perm (before : List SourcedEntry) (s : SourcedEntry) :
    (findings before s).Perm (checkUnique before s.entry ++ findings [] s) := by
  have hfirst : checkUnique [] s.entry = [] := rfl
  simp only [findings, hfirst, List.append_assoc, List.nil_append]
  rw [← List.append_assoc (checkKeys _), ← List.append_assoc (checkKeys _)]
  exact List.perm_append_comm_assoc _ _ _

private theorem duplicateId_notMem_findings (s : SourcedEntry) (id : String) :
    .duplicateId id ∉ findings [] s := by
  -- Some checks branch before they report, and these need a case split each.
  have hareas : .duplicateId id ∉ checkSubAreas s.entry := by
    rw [checkSubAreas]
    split
    · dsimp only
      split <;> simp [mem_report_iff]
    · simp
  have hgroups : .duplicateId id ∉ checkRoleGroups s.entry := by
    rw [checkRoleGroups]
    split
    · dsimp only
      split <;> simp
    · simp
  have hfocus : .duplicateId id ∉ checkAiFocus s.entry := by
    rw [checkAiFocus]
    split <;> simp
  have hyear : .duplicateId id ∉ checkYear s.entry := by
    rw [checkYear]
    split <;> simp
  have hprice : .duplicateId id ∉ checkPrice s.entry := by
    rw [checkPrice]
    split <;> simp [mem_report_iff]
  have hdate : .duplicateId id ∉ checkDate s.entry := by
    rw [checkDate]
    split <;> simp [mem_report_iff]
  have htooltip : .duplicateId id ∉ checkTooltip s.entry := by
    rw [checkTooltip]
    split <;> simp [mem_report_iff]
  simp [findings, checkKeys, checkStem, checkUnique, checkDomain, checkLevel, checkStatus,
    checkTexts, checkConfidence, checkUrl, checkPriceLabel, mem_report_iff, hareas, hgroups,
    hfocus, hyear, hprice, hdate, htooltip]

/-! ### Issues of a run over entries -/

/-- The issues of one entry after the entries before it. -/
def issuesAt (before : List SourcedEntry) (s : SourcedEntry) : List Issue :=
  (findings before s).map fun finding ↦ ⟨label before s, finding⟩

private theorem map_finding_issuesAt (before : List SourcedEntry) (s : SourcedEntry) :
    (issuesAt before s).map (·.finding) = findings before s := by
  rw [issuesAt, List.map_map]
  exact List.map_id' _

private theorem entryIssues_cons (before : List SourcedEntry) (s : SourcedEntry)
    (rest : List SourcedEntry) :
    entryIssues before (s :: rest) = issuesAt before s ++ entryIssues (before ++ [s]) rest :=
  rfl

private theorem entryIssues_append (before entries more : List SourcedEntry) :
    entryIssues before (entries ++ more) =
      entryIssues before entries ++ entryIssues (before ++ entries) more := by
  induction entries generalizing before with
  | nil => simp [entryIssues]
  | cons s entries ih =>
    rw [List.cons_append, entryIssues_cons, entryIssues_cons, ih, List.append_assoc,
      List.append_assoc, List.singleton_append]

/-- The findings of a run are the repeated ids, and what each entry has on its own. -/
theorem map_finding_entryIssues_perm (before entries : List SourcedEntry) :
    ((entryIssues before entries).map (·.finding)).Perm
      ((repeats (before.map SourcedEntry.idText) (entries.map SourcedEntry.idText)).map
        Finding.duplicateId ++ entries.flatMap (findings [])) := by
  -- The ids seen so far are those of the entries before, so both grow by one entry at each step.
  induction entries generalizing before with
  | nil => rfl
  | cons s entries ih =>
    have hfirst := findings_perm before s
    have hrest := ih (before ++ [s])
    rw [checkUnique_eq] at hfirst
    rw [List.map_append] at hrest
    rw [entryIssues_cons, List.map_append, map_finding_issuesAt, List.map_cons, repeats,
      List.map_append, List.flatMap_cons]
    refine (hfirst.append hrest).trans ?_
    rw [List.append_assoc, List.append_assoc]
    exact (List.perm_append_comm_assoc _ _ _).append_left _

private theorem count_duplicateId_entryIssues (before entries : List SourcedEntry) (id : String) :
    ((entryIssues before entries).map (·.finding)).count (.duplicateId id) =
      (repeats (before.map SourcedEntry.idText) (entries.map SourcedEntry.idText)).count id := by
  have hown : (entries.flatMap (findings [])).count (.duplicateId id) = 0 := by
    rw [List.count_eq_zero, List.mem_flatMap]
    rintro ⟨s, -, hs⟩
    exact duplicateId_notMem_findings s id hs
  rw [(map_finding_entryIssues_perm before entries).count_eq, List.count_append, hown,
    Nat.add_zero]
  apply List.count_map_of_injective
  intro a b h
  exact Finding.duplicateId.inj h

end Audit

/-! ### Audits of sources -/

/-- The messages of a report. -/
def AuditReport.messages (r : AuditReport) : List String := r.issues.map (·.finding.message)

private theorem Audit.count_message_duplicateId (issues : List Issue) (id : String) :
    (issues.map (·.finding.message)).count (Finding.duplicateId id).message =
      (issues.map (·.finding)).count (.duplicateId id) := by
  rw [List.count, List.count, List.countP_map, List.countP_map]
  apply List.countP_congr
  intro i _
  simp only [Function.comp_apply, beq_iff_eq]
  exact Finding.message_eq_duplicateId_iff

private theorem Audit.count_message_duplicateId_issuesAt (before : List SourcedEntry)
    (s : SourcedEntry)
    (id : String) :
    ((issuesAt before s).map (·.finding.message)).count (Finding.duplicateId id).message =
      if s.idText = id ∧ id ∈ before.map SourcedEntry.idText then 1 else 0 := by
  have hrun := count_duplicateId_entryIssues before [s] id
  rw [entryIssues_cons, entryIssues, List.append_nil] at hrun
  rw [count_message_duplicateId, hrun, List.map_cons, List.map_nil, repeats, repeats,
    List.append_nil]
  by_cases hid : s.idText = id
  · subst hid
    split <;> simp [*]
  · split <;> simp [hid]

namespace CatalogSource

private theorem map_finding_audit (source : CatalogSource) :
    source.audit.issues.map (·.finding) =
      (if source.entries.isEmpty && source.problems.isEmpty then [Finding.noRecords] else []) ++
        source.problems.map (fun p ↦ Finding.unreadable p.reason) ++
        (Audit.entryIssues [] source.entries).map (·.finding) := by
  rw [audit, List.map_append, List.map_append, List.map_map]
  split <;> rfl

/-- The findings of an audit are the same in any order of the entries and the files. -/
theorem map_finding_audit_perm {source source' : CatalogSource}
    (hentries : source'.entries.Perm source.entries)
    (hproblems : source'.problems.Perm source.problems) :
    (source'.audit.issues.map (·.finding)).Perm (source.audit.issues.map (·.finding)) := by
  have hids := hentries.map SourcedEntry.idText
  have hrun : ((Audit.entryIssues [] source'.entries).map (·.finding)).Perm
      ((Audit.entryIssues [] source.entries).map (·.finding)) := by
    refine (Audit.map_finding_entryIssues_perm [] _).trans
      (List.Perm.trans ?_ (Audit.map_finding_entryIssues_perm [] _).symm)
    exact ((repeats_perm hids).map _).append (hentries.flatMap_right _)
  rw [map_finding_audit, map_finding_audit, hentries.isEmpty_eq, hproblems.isEmpty_eq]
  exact ((hproblems.map _).append_left _).append hrun

/-- The messages about an id are as many as its occurrences but one. -/
theorem count_message_duplicateId_audit (source : CatalogSource) (id : String) :
    source.audit.messages.count (Finding.duplicateId id).message =
      (source.entries.map SourcedEntry.idText).count id - 1 := by
  have hnothing : (if source.entries.isEmpty && source.problems.isEmpty then [Finding.noRecords]
      else []).count (.duplicateId id) = 0 := by
    split <;> simp
  have hunreadable : (source.problems.map fun p ↦ Finding.unreadable p.reason).count
      (.duplicateId id) = 0 :=
    List.count_eq_zero.mpr (by simp)
  rw [AuditReport.messages, Audit.count_message_duplicateId, map_finding_audit, List.count_append,
    List.count_append, hnothing, hunreadable, Nat.zero_add, Audit.count_duplicateId_entryIssues,
    List.map_nil, count_repeats, if_neg List.not_mem_nil]

/-- Behind an entry or an unreadable file, further entries bring further issues. -/
theorem issues_audit_append (source : CatalogSource) (more : List SourcedEntry)
    (h : source.entries ≠ [] ∨ source.problems ≠ []) :
    { source with entries := source.entries ++ more }.audit.issues =
      source.audit.issues ++ Audit.entryIssues source.entries more := by
  have hbefore : (source.entries.isEmpty && source.problems.isEmpty) = false := by
    rcases h with h | h <;> simp [h]
  have hafter : ((source.entries ++ more).isEmpty && source.problems.isEmpty) = false := by
    rcases h with h | h <;> simp [h]
  simp only [audit, hbefore, hafter, Audit.entryIssues_append, List.nil_append, List.append_assoc]

/-- Reports do not depend on the order of files and grow at the end. Entries and files in another
order are as many and have the same messages. Each id has a message for every occurrence but its
first one. The issues are listed entry by entry, each under the label of its entry, and a duplicate
id is reported where an earlier entry has the id. Entries at the end extend the list of issues. -/
theorem audit_in_any_order (source : CatalogSource) :
    (∀ source' : CatalogSource, source'.entries.Perm source.entries →
      source'.problems.Perm source.problems →
        source'.audit.checked = source.audit.checked ∧
        source'.audit.messages.Perm source.audit.messages) ∧
    (∀ id ∈ source.entries.map SourcedEntry.idText,
      source.audit.messages.count (Finding.duplicateId id).message + 1 =
        (source.entries.map SourcedEntry.idText).count id) ∧
    (∀ (before : List SourcedEntry) (s : SourcedEntry) (after : List SourcedEntry),
      source.entries = before ++ s :: after →
        source.audit.issues =
          source.problems.map Audit.problemIssue ++ Audit.entryIssues [] before ++
            Audit.issuesAt before s ++ Audit.entryIssues (before ++ [s]) after ∧
        (∀ id, ((Audit.issuesAt before s).map (·.finding.message)).count
            (Finding.duplicateId id).message =
          if s.idText = id ∧ id ∈ before.map SourcedEntry.idText then 1 else 0) ∧
        ∀ i ∈ Audit.issuesAt before s, i.source =
          if s.hasOwnFile then Files.fileLabel s.path
          else Files.fileLabel s.path ++ "[" ++
            Integer.toText (before.filter (Files.samePath ·.path s.path)).length ++ "]") ∧
    ∀ more : List SourcedEntry, source.entries ≠ [] ∨ source.problems ≠ [] →
      source.audit.issues <+: { source with entries := source.entries ++ more }.audit.issues := by
  refine ⟨fun source' hentries hproblems ↦ ⟨?_, ?_⟩, fun id hid ↦ ?_, fun before s after hsplit ↦
    ⟨?_, Audit.count_message_duplicateId_issuesAt before s, fun i hi ↦ ?_⟩, fun more h ↦ ?_⟩
  · rw [audit, audit, hentries.length_eq, hproblems.length_eq]
  · have hmessages := (map_finding_audit_perm hentries hproblems).map Finding.message
    rwa [List.map_map, List.map_map] at hmessages
  · have hpos := List.count_pos_iff.mpr hid
    rw [count_message_duplicateId_audit]
    omega
  -- The source holds an entry, so nothing is reported about an empty one.
  · have hentry : (source.entries.isEmpty && source.problems.isEmpty) = false := by
      simp [hsplit]
    rw [audit]
    dsimp only
    rw [hentry, hsplit, Audit.entryIssues_append, Audit.entryIssues_cons]
    simp
  · obtain ⟨f, -, rfl⟩ := List.mem_map.mp hi
    dsimp only
    rw [Audit.label, List.countP_eq_length_filter]
  · rw [issues_audit_append source more h]
    exact List.prefix_append _ _

/-- Three entries of two documents have the same id, and a file cannot be read. In another order the
messages are the same, two of them about the id. The last entry is labelled as the second one of its
document, and a further entry leaves the issues as they are. -/
theorem audit_in_any_order_of_three :
    let entry (path : String) : SourcedEntry :=
      ⟨path, false, Entry.blank.setScalar .id (some (.text "gcih"))⟩
    let source : CatalogSource := ⟨.blank, [entry "a.json", entry "b.json", entry "a.json"],
      [⟨"c.yaml", "empty"⟩]⟩
    let source' : CatalogSource := ⟨.blank, [entry "b.json", entry "a.json", entry "a.json"],
      [⟨"c.yaml", "empty"⟩]⟩
    let longer : CatalogSource := { source with entries := source.entries ++ [entry "d.json"] }
    source'.audit.messages.Perm source.audit.messages ∧
      source.audit.messages.count "duplicate id 'gcih'" + 1 = 3 ∧
      (∀ i ∈ Audit.issuesAt [entry "a.json", entry "b.json"] (entry "a.json"),
        i.source = "a.json[1]") ∧
      source.audit.issues <+: longer.audit.issues := by
  intro entry source source' longer
  obtain ⟨horder, hcount, hplace, hlonger⟩ := source.audit_in_any_order
  have hperm : source'.entries.Perm source.entries := List.Perm.swap _ _ _
  have hids : (source.entries.map SourcedEntry.idText).count "gcih" = 3 := by decide
  have hid : "gcih" ∈ source.entries.map SourcedEntry.idText :=
    List.count_pos_iff.mp (by rw [hids]; decide)
  have hmessage : (Finding.duplicateId "gcih").message = "duplicate id 'gcih'" := by decide
  have hsplit : source.entries = [entry "a.json", entry "b.json"] ++ entry "a.json" :: [] := rfl
  have hlabel : Files.fileLabel "a.json" ++ "[" ++ Integer.toText
      ([entry "a.json", entry "b.json"].filter (Files.samePath ·.path "a.json")).length ++ "]" =
      "a.json[1]" := by
    decide
  refine ⟨(horder source' hperm (.refl _)).2, ?_, ?_, hlonger _ (.inl (List.cons_ne_nil _ _))⟩
  · rw [← hids, ← hcount "gcih" hid, hmessage]
  · intro i hi
    rw [← hlabel]
    exact (hplace _ _ _ hsplit).2.2 i hi

end CatalogSource
end CertCatalog
