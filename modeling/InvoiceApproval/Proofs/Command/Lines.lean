/-
What stands in the text of a response.

A person reads a response line by line: what came of the request, the request itself, the rules
that hold of it, the approvers, and what was put into the outbox.  `LaidOut` says which line
stands where, and nothing else is laid out that way (`LaidOut.unique`).  So a text is the text of
a response exactly if it joins lines that are laid out (`Response.eq_text_iff`).

A reader finds the lines by the line breaks.  That works as long as no name and no message has a
line break of its own (`Response.splitOn_text`).
-/
import InvoiceApproval.Command.Execute
import InvoiceApproval.Proofs.Decimal.Written

namespace InvoiceApproval

/-! ### One line -/

/-- The words for the area of an approver and for their role. -/
structure Approver.InWords (a : Approver) (area role : String) : Prop where
  departmental : ∀ d, a.department = some d → area = d.name
  orgWide : a.department = none → area = "ORG-WIDE"
  manager : a.isManager = true → role = "manager"
  employee : a.isManager = false → role = "employee"

/-- A line that tells who an approver is, and with which area and role. -/
def Approver.OnLine (a : Approver) (line : String) : Prop :=
  ∃ area role, a.InWords area role ∧
    line = "- " ++ a.name ++ " <" ++ a.email ++ "> (" ++ area ++ ", " ++ role ++ ")"

/-- A line that tells what was sent to whom. -/
def Notice.OnLine (n : Notice) (line : String) : Prop :=
  line = "- to " ++ n.recipient ++ ": " ++ n.message

theorem Approver.inWords (a : Approver) :
    a.InWords ((a.department.map (·.name)).getD "ORG-WIDE")
      (if a.isManager then "manager" else "employee") where
  departmental d h := by rw [h]; rfl
  orgWide h := by rw [h]; rfl
  manager h := if_pos h
  employee h := by rw [h]; rfl

theorem Approver.InWords.unique {a : Approver} {area area' role role' : String}
    (h : a.InWords area role) (h' : a.InWords area' role') : area = area' ∧ role = role' := by
  constructor
  · cases hd : a.department with
    | none => rw [h.orgWide hd, h'.orgWide hd]
    | some d => rw [h.departmental d hd, h'.departmental d hd]
  · cases hrole : a.isManager with
    | true => rw [h.manager hrole, h'.manager hrole]
    | false => rw [h.employee hrole, h'.employee hrole]

theorem Approver.onLine_iff {a : Approver} {line : String} : a.OnLine line ↔ line = a.line := by
  constructor
  · rintro ⟨area, role, hwords, rfl⟩
    obtain ⟨rfl, rfl⟩ := hwords.unique a.inWords
    rfl
  · rintro rfl
    exact ⟨_, _, a.inWords, rfl⟩

theorem Notice.onLine_iff {n : Notice} {line : String} : n.OnLine line ↔ line = n.line := Iff.rfl

/-! ### All lines -/

namespace Response

variable {r : Response} {channel : String} {sent : List Notice} {lines lines' : List String}

/-- Which lines tell of a response and of the notices that were sent, and where they stand. -/
structure LaidOut (r : Response) (channel : String) (sent : List Notice) (lines : List String) :
    Prop where
  length : lines.length = 5 + r.selected.length + sent.length
  message : lines[0]? = some r.message
  invoice : lines[1]? = some ("invoice: amount=" ++ r.amount.toText ++ " department="
    ++ r.department.name ++ " requires_manager_approval="
    ++ if r.requiresManagerApproval then "true" else "false")
  noRule : r.rulesApplied = [] → lines[2]? = some "rules applied: none"
  rules : r.rulesApplied ≠ [] →
    lines[2]? = some ("rules applied: " ++ ", ".intercalate r.rulesApplied)
  approvers : lines[3]? = some "approvers:"
  approver : ∀ k a, r.selected[k]? = some a → ∃ line, lines[4 + k]? = some line ∧ a.OnLine line
  outbox : lines[4 + r.selected.length]? = some ("outbox (" ++ channel ++ "):")
  notice : ∀ k n, sent[k]? = some n →
    ∃ line, lines[5 + r.selected.length + k]? = some line ∧ n.OnLine line

/-- Behind the first four lines stand the approvers, and behind these the outbox. -/
theorem getElem?_lines (r : Response) (channel : String) (sent : List Notice) (k : Nat) :
    (r.lines channel sent)[4 + k]? = (r.selected.map Approver.line
      ++ ("outbox (" ++ channel ++ "):") :: sent.map Notice.line)[k]? := by
  rw [Nat.add_comm, lines, List.append_assoc, List.append_assoc]
  rfl

theorem laidOut_lines (r : Response) (channel : String) (sent : List Notice) :
    r.LaidOut channel sent (r.lines channel sent) where
  length := by
    simp only [lines, List.length_append, List.length_cons, List.length_nil, List.length_map]
    omega
  message := rfl
  invoice := by
    have hline : (r.lines channel sent)[1]? = some ("invoice: amount=" ++ r.amount.toText
        ++ " department=" ++ r.department.name ++ " " ++ ("requires_manager_approval="
        ++ if r.requiresManagerApproval then "true" else "false")) := rfl
    have hgap : " requires_manager_approval=" = " " ++ "requires_manager_approval=" := by decide
    rw [hline, hgap]
    simp only [String.append_assoc]
  noRule h := by
    have hnone : r.rulesText = "none" := by rw [rulesText, h]; rfl
    show some ("rules applied: " ++ r.rulesText) = _
    rw [hnone]
    rfl
  rules h := by
    have hnames : r.rulesText = ", ".intercalate r.rulesApplied := if_neg (by simpa using h)
    show some ("rules applied: " ++ r.rulesText) = _
    rw [hnames]
  approvers := rfl
  approver k a h := by
    refine ⟨a.line, ?_, Approver.onLine_iff.2 rfl⟩
    obtain ⟨hk, -⟩ := List.getElem?_eq_some_iff.1 h
    rw [getElem?_lines, List.getElem?_append_left (by simpa using hk), List.getElem?_map, h]
    rfl
  outbox := by
    rw [getElem?_lines, List.getElem?_append_right (by simp)]
    simp
  notice k n h := by
    refine ⟨n.line, ?_, Notice.onLine_iff.2 rfl⟩
    have hplace : 5 + r.selected.length + k = 4 + (r.selected.length + (k + 1)) := by omega
    rw [hplace, getElem?_lines, List.getElem?_append_right (by simp)]
    simp [h]

/-- What a line is for, by its place. -/
inductive Placed (r : Response) (sent : List Notice) : Nat → Prop
  | head {i : Nat} : i < 4 → Placed r sent i
  | approver {k : Nat} {a : Approver} : r.selected[k]? = some a → Placed r sent (4 + k)
  | outbox : Placed r sent (4 + r.selected.length)
  | notice {k : Nat} {n : Notice} : sent[k]? = some n → Placed r sent (5 + r.selected.length + k)

theorem placed_of_lt {i : Nat} (h : i < 5 + r.selected.length + sent.length) :
    Placed r sent i := by
  rcases Nat.lt_or_ge i 4 with hhead | hpast
  · exact .head hhead
  obtain ⟨k, rfl⟩ := Nat.exists_eq_add_of_le hpast
  rcases Nat.lt_trichotomy k r.selected.length with happrover | rfl | hnotice
  · exact .approver (List.getElem?_eq_getElem happrover)
  · exact .outbox
  · obtain ⟨j, rfl⟩ := Nat.exists_eq_add_of_lt hnotice
    have hplace : 4 + (r.selected.length + j + 1) = 5 + r.selected.length + j := by omega
    rw [hplace] at h ⊢
    exact .notice (List.getElem?_eq_getElem (Nat.lt_of_add_lt_add_left h))

theorem LaidOut.getElem?_eq (h : r.LaidOut channel sent lines)
    (h' : r.LaidOut channel sent lines') {i : Nat} (hi : Placed r sent i) :
    lines[i]? = lines'[i]? := by
  cases hi with
  | head hhead =>
      interval_cases i
      · rw [h.message, h'.message]
      · rw [h.invoice, h'.invoice]
      · by_cases hrules : r.rulesApplied = []
        · rw [h.noRule hrules, h'.noRule hrules]
        · rw [h.rules hrules, h'.rules hrules]
      · rw [h.approvers, h'.approvers]
  | approver ha =>
      obtain ⟨line, hline, htold⟩ := h.approver _ _ ha
      obtain ⟨line', hline', htold'⟩ := h'.approver _ _ ha
      rw [hline, hline', Approver.onLine_iff.1 htold, Approver.onLine_iff.1 htold']
  | outbox => rw [h.outbox, h'.outbox]
  | notice hn =>
      obtain ⟨line, hline, htold⟩ := h.notice _ _ hn
      obtain ⟨line', hline', htold'⟩ := h'.notice _ _ hn
      rw [hline, hline', Notice.onLine_iff.1 htold, Notice.onLine_iff.1 htold']

/-- **Only one list of lines tells of a response.** -/
theorem LaidOut.unique (h : r.LaidOut channel sent lines) (h' : r.LaidOut channel sent lines') :
    lines = lines' := by
  refine List.ext_getElem? fun i => ?_
  rcases Nat.lt_or_ge i (5 + r.selected.length + sent.length) with hi | hi
  · exact h.getElem?_eq h' (placed_of_lt hi)
  · rw [List.getElem?_eq_none (h.length.trans_le hi), List.getElem?_eq_none (h'.length.trans_le hi)]

/-- **A text is the text of a response exactly if it joins the lines that tell of it.** -/
theorem eq_text_iff {s : String} : s = r.text channel sent ↔
    ∃ lines, r.LaidOut channel sent lines ∧ s = Answer.lines lines := by
  constructor
  · rintro rfl
    exact ⟨_, r.laidOut_lines channel sent, rfl⟩
  · rintro ⟨lines, h, rfl⟩
    rw [h.unique (r.laidOut_lines channel sent)]
    rfl

/-! ### Finding the lines -/

end Response

/-- A text without line breaks. -/
def Text.Unbroken (s : String) : Prop := '\n' ∉ s.toList

instance (s : String) : Decidable (Text.Unbroken s) := inferInstanceAs (Decidable (_ ∉ _))

namespace Text

theorem unbroken_append_iff {s t : String} : Unbroken (s ++ t) ↔ Unbroken s ∧ Unbroken t := by
  simp [Unbroken]

theorem unbroken_intercalate {sep : String} (hsep : Unbroken sep) :
    ∀ {ls : List String}, (∀ s ∈ ls, Unbroken s) → Unbroken (sep.intercalate ls)
  | [], _ => by simp [Unbroken]
  | [s], h => by
      rw [String.intercalate_singleton]
      exact h s (List.mem_singleton_self s)
  | s :: t :: rest, h => by
      rw [String.intercalate_cons_cons]
      have hrest := unbroken_intercalate hsep fun u hu => h u (List.mem_cons_of_mem _ hu)
      exact unbroken_append_iff.2 ⟨unbroken_append_iff.2 ⟨h s List.mem_cons_self, hsep⟩, hrest⟩

end Text

theorem Department.unbroken_name (d : Department) : Text.Unbroken d.name := by
  cases d <;> decide

theorem Decimal.unbroken_toText (d : Decimal) : Text.Unbroken d.toText := by
  intro hbreak
  rw [toText, String.toList_ofList] at hbreak
  exact absurd (d.isBlank_of_mem_chars hbreak) (by decide)

theorem Approver.OnLine.unbroken {a : Approver} {line : String} (h : a.OnLine line)
    (hname : Text.Unbroken a.name) (hemail : Text.Unbroken a.email) : Text.Unbroken line := by
  obtain ⟨area, role, hwords, rfl⟩ := h
  have harea : Text.Unbroken area := by
    cases hd : a.department with
    | none => rw [hwords.orgWide hd]; decide
    | some d => rw [hwords.departmental d hd]; exact d.unbroken_name
  have hrole : Text.Unbroken role := by
    cases hmanager : a.isManager with
    | true => rw [hwords.manager hmanager]; decide
    | false => rw [hwords.employee hmanager]; decide
  simp only [Text.unbroken_append_iff, hname, hemail, harea, hrole, and_true]
  decide

theorem Notice.OnLine.unbroken {n : Notice} {line : String} (h : n.OnLine line)
    (hrecipient : Text.Unbroken n.recipient) (hmessage : Text.Unbroken n.message) :
    Text.Unbroken line := by
  rw [h]
  simp only [Text.unbroken_append_iff, hrecipient, hmessage, and_true]
  decide

namespace Response

/-- None of the texts that a response shows has a line break. -/
structure Unbroken (r : Response) (channel : String) (sent : List Notice) : Prop where
  message : Text.Unbroken r.message
  rules : ∀ name ∈ r.rulesApplied, Text.Unbroken name
  approvers : ∀ a ∈ r.selected, Text.Unbroken a.name ∧ Text.Unbroken a.email
  channel : Text.Unbroken channel
  notices : ∀ n ∈ sent, Text.Unbroken n.recipient ∧ Text.Unbroken n.message

section

variable {r : Response} {channel : String} {sent : List Notice} {lines : List String}

theorem LaidOut.unbroken_head (h : r.LaidOut channel sent lines)
    (hunbroken : r.Unbroken channel sent) {i : Nat} (hi : i < 4) {line : String}
    (hline : lines[i]? = some line) : Text.Unbroken line := by
  interval_cases i
  · rw [h.message] at hline
    cases hline
    exact hunbroken.message
  · rw [h.invoice] at hline
    cases hline
    have hflag : Text.Unbroken (if r.requiresManagerApproval then "true" else "false") := by
      split <;> decide
    simp only [Text.unbroken_append_iff, r.amount.unbroken_toText, r.department.unbroken_name,
      hflag, and_true]
    decide
  · by_cases hrules : r.rulesApplied = []
    · rw [h.noRule hrules] at hline
      cases hline
      decide
    · rw [h.rules hrules] at hline
      cases hline
      exact Text.unbroken_append_iff.2
        ⟨by decide, Text.unbroken_intercalate (by decide) hunbroken.rules⟩
  · rw [h.approvers] at hline
    cases hline
    decide

theorem LaidOut.unbroken (h : r.LaidOut channel sent lines) (hunbroken : r.Unbroken channel sent)
    {line : String} (hmem : line ∈ lines) : Text.Unbroken line := by
  obtain ⟨i, hi, hline⟩ := List.getElem_of_mem hmem
  have hplaced : Placed r sent i := placed_of_lt (h.length ▸ hi)
  replace hline : lines[i]? = some line := by rw [List.getElem?_eq_getElem hi, hline]
  cases hplaced with
  | head hhead => exact h.unbroken_head hunbroken hhead hline
  | approver ha =>
      obtain ⟨line', hline', htold⟩ := h.approver _ _ ha
      obtain ⟨hname, hemail⟩ := hunbroken.approvers _ (List.mem_of_getElem? ha)
      cases hline.symm.trans hline'
      exact htold.unbroken hname hemail
  | outbox =>
      cases hline.symm.trans h.outbox
      simp only [Text.unbroken_append_iff, hunbroken.channel, and_true]
      decide
  | notice hn =>
      obtain ⟨line', hline', htold⟩ := h.notice _ _ hn
      obtain ⟨hrecipient, hmessage⟩ := hunbroken.notices _ (List.mem_of_getElem? hn)
      cases hline.symm.trans hline'
      exact htold.unbroken hrecipient hmessage

/-- **A text is cut into its lines by its line breaks**, if no name and no message has one. -/
theorem LaidOut.splitOn_text (h : r.LaidOut channel sent lines)
    (hunbroken : r.Unbroken channel sent) :
    (r.text channel sent).toList.splitOn '\n' = lines.map String.toList := by
  rw [← eq_text_iff.2 ⟨lines, h, rfl⟩, Answer.lines, String.toList_intercalate]
  refine List.splitOn_intercalate '\n' ?_ ?_
  · intro cs hcs
    obtain ⟨line, hline, rfl⟩ := List.mem_map.1 hcs
    exact h.unbroken hunbroken hline
  · have hpositive : lines.length ≠ 0 := by
      rw [h.length]
      omega
    simpa using hpositive

end

end Response

end InvoiceApproval
