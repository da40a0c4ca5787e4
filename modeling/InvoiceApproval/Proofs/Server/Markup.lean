/-
What text can do to a page.

A page is made of pieces, and a piece is markup or text.  `Page.shape` is what the markup hangs
on: the option that is selected, the mark of the box, whether there is an error or a result, and
of a result how many items stand in each list and which badges an approver has.  Every other
difference between two pages is text, and text stands in the places of a template that the
shape determines (`slot_pieces`), each time escaped.

An escaped text has none of the characters that markup is made with (`marks_escaped`).  So the
marks of a page are those of its template, whatever texts are put into it, and a page looks the
same to whoever parses it as any other page of its shape.
-/
import InvoiceApproval.Proofs.Server.Answers

namespace InvoiceApproval

/-! ### Marks -/

/-- A character that markup is made with: it opens or closes a tag, or it stands at the ends of
the value of an attribute. -/
def isMark (c : Char) : Bool := c == '<' || c == '>' || c == '"'

/-- The marks among characters, in their order. -/
def marks (cs : List Char) : List Char := cs.filter isMark

theorem marks_append (cs ds : List Char) : marks (cs ++ ds) = marks cs ++ marks ds :=
  List.filter_append ..

/-- **An escaped text has no marks.** -/
theorem marks_escaped (cs : List Char) : marks (cs.flatMap Piece.escapeChar) = [] := by
  have hchar : ∀ c, marks (Piece.escapeChar c) = [] := by
    intro c
    unfold Piece.escapeChar
    split
    case h_7 hlt hgt hquote _ _ => simp_all [marks, isMark]
    all_goals decide
  unfold marks at hchar ⊢
  rw [List.filter_flatMap, List.flatMap_eq_nil_iff]
  exact fun c _ => hchar c

/-! ### Templates -/

/-- A place in a template: markup, or a hole for a text. -/
inductive Slot where
  | markup (content : String)
  | hole
deriving DecidableEq, Repr

/-- The marks of a place, whatever text may be put into it. -/
def Slot.marks : Slot → List Char
  | markup content => InvoiceApproval.marks content.toList
  | hole => []

/-- Puts texts into the holes of a template, one after the other, and escapes each of them.  A
hole for which there is no text stays empty. -/
def fill : List Slot → List String → List Char
  | [], _ => []
  | .markup content :: slots, texts => content.toList ++ fill slots texts
  | .hole :: slots, text :: texts => text.toList.flatMap Piece.escapeChar ++ fill slots texts
  | .hole :: slots, [] => fill slots []

/-- **The marks of a template do not depend on what is put into it.** -/
theorem marks_fill (slots : List Slot) (texts : List String) :
    marks (fill slots texts) = slots.flatMap Slot.marks := by
  induction slots generalizing texts with
  | nil => rfl
  | cons slot slots ih =>
      cases slot with
      | markup content => rw [fill, marks_append, ih, List.flatMap_cons, Slot.marks]
      | hole =>
          cases texts with
          | nil => rw [fill, ih, List.flatMap_cons, Slot.marks, List.nil_append]
          | cons text texts =>
              rw [fill, marks_append, marks_escaped, ih, List.flatMap_cons, Slot.marks]

namespace Piece

/-- The place of a piece in a template. -/
def slot : Piece → Slot
  | markup content => .markup content
  | text _ => .hole

/-- The text of a piece. -/
def text? : Piece → Option String
  | markup _ => none
  | text content => some content

@[simp] theorem filterMap_text?_markup (content : String) (ps : List Piece) :
    (markup content :: ps).filterMap text? = ps.filterMap text? := rfl

@[simp] theorem filterMap_text?_text (content : String) (ps : List Piece) :
    (text content :: ps).filterMap text? = content :: ps.filterMap text? := rfl

/-- There is a hole for each text, and a text for each hole. -/
theorem count_hole (ps : List Piece) :
    (ps.map slot).count .hole = (ps.filterMap text?).length := by
  induction ps with
  | nil => rfl
  | cons p ps ih => cases p <;> simp [slot, ih]

/-- Pieces are a template and the texts in it. -/
theorem flatMap_chars (ps : List Piece) :
    ps.flatMap chars = fill (ps.map slot) (ps.filterMap text?) := by
  induction ps with
  | nil => rfl
  | cons p ps ih =>
      rw [List.flatMap_cons, ih]
      cases p <;> rfl

end Piece

/-! ### Shapes -/

/-- The badges of an approver. -/
structure ApproverShape where
  hasDepartment : Bool
  isManager : Bool
deriving DecidableEq, Repr

/-- What the markup below the form hangs on. -/
inductive ContentShape where
  | nothing
  | error
  | result (rules : Nat) (approvers : List ApproverShape) (notifications : Nat)
deriving DecidableEq, Repr

/-- What the markup of a page hangs on. -/
structure PageShape where
  /-- The option that is selected. -/
  chosen : Option Department
  /-- Whether the box is checked. -/
  checked : Bool
  content : ContentShape
deriving DecidableEq, Repr

/-- The shape of an approver on a page. -/
def Approver.shape (a : Approver) : ApproverShape := ⟨a.department.isSome, a.isManager⟩

/-- The shape of what stands below the form. -/
def PageContent.shape : PageContent → ContentShape
  | nothing => .nothing
  | error _ => .error
  | result r => .result r.rulesApplied.length (r.selected.map Approver.shape) r.confirmations.length

/-- Whether the page says that a manager has to approve.  This is the one word on it that is
neither fixed nor a text. -/
def PageContent.approvalShown : PageContent → Bool
  | result r => r.requiresManagerApproval
  | nothing | error _ => false

namespace Page

/-- The shape of a page. -/
def shape (v : FormValues) (content : PageContent) : PageShape :=
  ⟨Department.ofName? v.department, v.requiresManagerApproval, content.shape⟩

/-- The texts on a page, in their order. -/
def texts (v : FormValues) (content : PageContent) : List String :=
  v.amount :: Department.all.flatMap (fun d => [d.name, d.name]) ++
    match content with
    | .nothing => []
    | .error message => [message]
    | .result r =>
      [r.message, r.amount.toText, r.department.name] ++ r.rulesApplied
        ++ r.selected.flatMap (fun a => [a.name, a.email] ++ (a.department.map (·.name)).toList)
        ++ r.confirmations

end Page

/-! ### The template of a shape -/

/-- An approver of a shape, of whom nothing is said. -/
def ApproverShape.blank (a : ApproverShape) : Approver :=
  ⟨"", "", "", if a.hasDepartment then some .sales else none, a.isManager⟩

/-- What stands below the form of a page on which nothing is said. -/
def ContentShape.blank (approvalShown : Bool) : ContentShape → PageContent
  | nothing => .nothing
  | error => .error ""
  | result rules approvers notifications => .result {
      success := true
      amount := .ofNat 0 Decimal.zero_lt_bound
      department := .sales
      requiresManagerApproval := approvalShown
      selected := approvers.map ApproverShape.blank
      confirmations := List.replicate notifications ""
      rulesApplied := List.replicate rules ""
      message := "" }

namespace PageShape

/-- The form of a page on which nothing is said. -/
def blankForm (s : PageShape) : FormValues :=
  ⟨"", (s.chosen.map (·.name)).getD "", s.checked⟩

/-- The template of the pages of a shape. -/
def template (s : PageShape) (approvalShown : Bool) : List Slot :=
  (Page.pieces s.blankForm (s.content.blank approvalShown)).map Piece.slot

/-- The marks of the pages of a shape. -/
def marks (s : PageShape) : List Char := (s.template false).flatMap Slot.marks

end PageShape

namespace Page

/-- Two rows of pieces that differ in their texts only. -/
def SameSlots (ps qs : List Piece) : Prop := ps.map Piece.slot = qs.map Piece.slot

theorem SameSlots.append {ps ps' qs qs' : List Piece} (h : SameSlots ps qs)
    (h' : SameSlots ps' qs') : SameSlots (ps ++ ps') (qs ++ qs') := by
  unfold SameSlots at *
  rw [List.map_append, List.map_append, h, h']

/-- Rows that are made of items one by one differ in their texts only if the items do. -/
theorem SameSlots.flatMap_map {α β : Type} {f : α → List Piece} {g : β → List Piece} {k : α → β}
    (h : ∀ x, SameSlots (f x) (g (k x))) (xs : List α) :
    SameSlots (xs.flatMap f) ((xs.map k).flatMap g) := by
  induction xs with
  | nil => rfl
  | cons x xs ih => exact (h x).append ih

/-- An option is marked on a blank page exactly if it is marked on the page itself. -/
theorem name_eq_blankForm_iff (v : FormValues) (content : PageContent) (d : Department) :
    d.name = (shape v content).blankForm.department ↔ d.name = v.department := by
  unfold shape PageShape.blankForm
  cases hchosen : Department.ofName? v.department with
  | some chosen => rw [Department.ofName?_eq_some_iff.1 hchosen]; rfl
  | none =>
      have hother : d.name ≠ v.department := by
        intro h
        rw [Department.ofName?_eq_some_iff.2 h.symm] at hchosen
        exact nomatch hchosen
      have hblank : d.name ≠ "" := by cases d <;> decide
      exact iff_of_false hblank hother

theorem sameSlots_form (v : FormValues) (content : PageContent) :
    SameSlots (form v) (form (shape v content).blankForm) := by
  have hoption : option (shape v content).blankForm.department = option v.department := by
    funext d
    unfold option
    simp only [name_eq_blankForm_iff]
  unfold form
  rw [hoption]
  exact SameSlots.append rfl rfl

theorem sameSlots_items (names : List String) :
    SameSlots (names.flatMap item) ((List.replicate names.length "").flatMap item) := by
  rw [← List.map_const']
  refine SameSlots.flatMap_map ?_ names
  exact fun name => rfl

theorem sameSlots_rules (names : List String) :
    SameSlots (rules names) (rules (List.replicate names.length "")) := by
  cases names with
  | nil => rfl
  | cons name names =>
      exact (SameSlots.append rfl (sameSlots_items (name :: names))).append rfl

theorem sameSlots_approver (a : Approver) : SameSlots (approver a) (approver a.shape.blank) := by
  obtain ⟨id, name, email, department, isManager⟩ := a
  cases department <;> rfl

theorem sameSlots_approvers (selected : List Approver) :
    SameSlots (approvers selected)
      (approvers ((selected.map Approver.shape).map ApproverShape.blank)) := by
  have hitems : SameSlots (selected.flatMap approver)
      (((selected.map Approver.shape).map ApproverShape.blank).flatMap approver) := by
    rw [List.map_map]
    exact SameSlots.flatMap_map sameSlots_approver selected
  unfold approvers
  cases selected with
  | nil => rfl
  | cons a selected => exact SameSlots.append rfl hitems

theorem sameSlots_notifications (confirmations : List String) :
    SameSlots (notifications confirmations)
      (notifications (List.replicate confirmations.length "")) :=
  (SameSlots.append rfl (sameSlots_items confirmations)).append rfl

theorem sameSlots_summary {r s : Response}
    (h : r.requiresManagerApproval = s.requiresManagerApproval) :
    SameSlots (summary r) (summary s) := by
  unfold SameSlots summary
  rw [h]
  rfl

theorem sameSlots_result (r : Response) (success : Bool) (amount : Decimal)
    (department : Department) (message : String) :
    SameSlots (result r) (result {
      success, amount, department, message
      requiresManagerApproval := r.requiresManagerApproval
      selected := (r.selected.map Approver.shape).map ApproverShape.blank
      confirmations := List.replicate r.confirmations.length ""
      rulesApplied := List.replicate r.rulesApplied.length "" }) := by
  unfold result
  exact (((sameSlots_summary rfl).append (sameSlots_rules _)).append
    (sameSlots_approvers _)).append (sameSlots_notifications _)

/-- **A page is its template, with texts in the holes.** -/
theorem slot_pieces (v : FormValues) (content : PageContent) :
    (pieces v content).map Piece.slot = (shape v content).template content.approvalShown := by
  show SameSlots (pieces v content) (pieces _ _)
  have hform := sameSlots_form v content
  unfold pieces
  refine (((hform.append ?error).append rfl).append ?result).append rfl
  case error => cases content <;> rfl
  case result =>
    cases content with
    | nothing => rfl
    | error message => rfl
    | result r => exact sameSlots_result r ..

/-! ### The texts of a page -/

theorem texts_option (chosen : String) (d : Department) :
    (option chosen d).filterMap Piece.text? = [d.name, d.name] := by
  unfold option
  split <;> rfl

theorem texts_items (names : List String) :
    (names.flatMap item).filterMap Piece.text? = names := by
  rw [List.filterMap_flatMap]
  exact List.flatMap_singleton' names

theorem texts_rules (names : List String) : (rules names).filterMap Piece.text? = names := by
  cases names with
  | nil => rfl
  | cons name names =>
      show ((name :: names).flatMap item ++ _).filterMap Piece.text? = _
      rw [List.filterMap_append, texts_items]
      exact List.append_nil _

theorem texts_approver (a : Approver) : (approver a).filterMap Piece.text?
    = [a.name, a.email] ++ (a.department.map (·.name)).toList := by
  obtain ⟨id, name, email, department, isManager⟩ := a
  cases department <;> cases isManager <;> rfl

theorem texts_approvers (selected : List Approver) : (approvers selected).filterMap Piece.text?
    = selected.flatMap fun a => [a.name, a.email] ++ (a.department.map (·.name)).toList := by
  have hitems : (selected.flatMap approver).filterMap Piece.text?
      = selected.flatMap fun a => [a.name, a.email] ++ (a.department.map (·.name)).toList := by
    rw [List.filterMap_flatMap]
    exact congrArg selected.flatMap (funext texts_approver)
  rw [← hitems]
  cases selected <;> rfl

theorem texts_notifications (confirmations : List String) :
    (notifications confirmations).filterMap Piece.text? = confirmations := by
  show (confirmations.flatMap item ++ _).filterMap Piece.text? = _
  rw [List.filterMap_append, texts_items]
  exact List.append_nil _

theorem texts_form (v : FormValues) : (form v).filterMap Piece.text?
    = v.amount :: Department.all.flatMap fun d => [d.name, d.name] := by
  have hoptions : (Department.all.flatMap (option v.department)).filterMap Piece.text?
      = Department.all.flatMap fun d => [d.name, d.name] := by
    rw [List.filterMap_flatMap]
    exact congrArg Department.all.flatMap (funext (texts_option v.department))
  rw [← hoptions]
  unfold form
  cases v.requiresManagerApproval <;> simp

/-- **The texts in the holes are those of the form and of what stands below it.** -/
theorem text?_pieces (v : FormValues) (content : PageContent) :
    (pieces v content).filterMap Piece.text? = texts v content := by
  unfold pieces texts
  rw [← texts_form]
  cases content with
  | nothing => simp
  | error message => simp [error]
  | result r =>
      have hsummary : (summary r).filterMap Piece.text?
          = [r.message, r.amount.toText, r.department.name] := rfl
      simp only [result, List.filterMap_append, hsummary, texts_rules, texts_approvers,
        texts_notifications]
      simp

/-! ### The marks of a page -/

theorem marks_word (approvalShown : Bool) :
    (Slot.markup (if approvalShown then "Yes" else "No")).marks = [] := by
  cases approvalShown <;> decide

theorem marks_summary (r s : Response) :
    ((summary r).map Piece.slot).flatMap Slot.marks
      = ((summary s).map Piece.slot).flatMap Slot.marks := by
  unfold summary
  simp only [List.map_cons, Piece.slot, List.flatMap_cons, marks_word]

end Page

/-- What a page says of the manager's approval brings no marks with it. -/
theorem PageShape.marks_template (s : PageShape) (approvalShown : Bool) :
    (s.template approvalShown).flatMap Slot.marks = s.marks := by
  unfold PageShape.marks template
  cases hcontent : s.content with
  | nothing => rfl
  | error => rfl
  | result rules approvers notifications =>
      simp only [ContentShape.blank, Page.pieces, Page.result, List.map_append,
        List.flatMap_append]
      rw [Page.marks_summary]

namespace Page

/-- A text is the page with this form and this content below it. -/
structure Shows (html : String) (v : FormValues) (content : PageContent) : Prop where
  /-- It is the template of its shape with texts in the holes, each of them escaped. -/
  filled : html.toList = fill ((shape v content).template content.approvalShown) (texts v content)
  /-- No hole is without a text, and no text without a hole. -/
  holes : ((shape v content).template content.approvalShown).count .hole
    = (texts v content).length
  /-- Its marks are those of its shape. -/
  marked : marks html.toList = (shape v content).marks

/-- **What is rendered is the template with the texts in it.** -/
theorem shows_render (v : FormValues) (content : PageContent) :
    Shows (render v content) v content := by
  have hfilled : (render v content).toList
      = fill ((shape v content).template content.approvalShown) (texts v content) := by
    rw [← slot_pieces, ← text?_pieces, ← Piece.flatMap_chars]
    exact String.toList_ofList
  refine ⟨hfilled, ?_, ?_⟩
  · rw [← slot_pieces, ← text?_pieces, Piece.count_hole]
  · rw [hfilled, marks_fill, PageShape.marks_template]

end Page

/-! ### The pages of the service -/

/-- Whether an answer says that it is a page. -/
def WebResponse.IsPage (a : WebResponse) : Prop := a.contentType = some "text/html; charset=utf-8"

namespace Server

variable {e : Engine} {now : String} {m : WebRequest} {j : Journal}

theorem not_isPage_json {status : Nat} {d : Data} : ¬ (WebResponse.json status d).IsPage := by
  show some "application/json" ≠ some "text/html; charset=utf-8"
  decide

theorem not_isPage_plain {status : Nat} {text : String} :
    ¬ (WebResponse.plain status text).IsPage := by
  show some "text/plain; charset=utf-8" ≠ some "text/html; charset=utf-8"
  decide

theorem not_isPage_answerTo (x : Except Failure Outcome) : ¬ (answerTo x).IsPage := by
  cases x <;> exact not_isPage_json

/-- A form that is not read is refused in plain text. -/
theorem not_isPage_of_readForm {refusal : WebResponse} (h : readForm m = .error refusal) :
    ¬ refusal.IsPage := by
  unfold readForm at h
  split at h
  · split at h
    · cases h
      exact not_isPage_plain
    · split at h
      · cases h
        exact not_isPage_plain
      · exact nomatch h
  · cases h
    exact not_isPage_plain

theorem rendered_pageTo (f : SubmittedForm) (x : Except Failure Outcome) :
    ∃ content, (pageTo f x).body = Page.render f.values content := by
  cases x <;> exact ⟨_, rfl⟩

/-- A route shows a page that was rendered, or no page at all. -/
theorem rendered_serve {route : Route} (h : ((serve e now m route).run j).1.IsPage) :
    ∃ v content, ((serve e now m route).run j).1.body = Page.render v content := by
  cases route with
  | page => exact ⟨_, _, rfl⟩
  | departments => exact absurd h not_isPage_json
  | health => exact absurd h not_isPage_json
  | rules =>
      refine absurd h ?_
      show ¬ (Server.rules e).IsPage
      unfold Server.rules
      split <;> exact not_isPage_json
  | execute =>
      refine absurd h ?_
      show ¬ ((execute e m).run j).1.IsPage
      rw [execute_run]
      exact not_isPage_answerTo _
  | submit =>
      change ((submit e m).run j).1.IsPage at h
      show ∃ v content, ((submit e m).run j).1.body = _
      cases hform : readForm m with
      | error refusal =>
          rw [submit_of_refusal hform] at h
          exact absurd h (not_isPage_of_readForm hform)
      | ok f =>
          rw [submit_of_form hform]
          exact ⟨f.values, rendered_pageTo f _⟩

/-- **Whatever the service sends as a page was rendered**, unless only its head was asked for. -/
theorem rendered_answer (h : ((answer e now m).run j).1.IsPage) :
    ((answer e now m).run j).1.body = ""
      ∨ ∃ v content, ((answer e now m).run j).1.body = Page.render v content := by
  unfold answer at h ⊢
  cases hroute : Route.ofPath? m.path with
  | none =>
      rw [hroute] at h
      exact nomatch h
  | some route =>
      simp only [hroute] at h ⊢
      by_cases hmethod : m.method = if route.takes then "POST" else "GET"
      · rw [if_pos hmethod] at h ⊢
        exact .inr (rendered_serve h)
      · rw [if_neg hmethod] at h ⊢
        by_cases hhead : (!route.takes && decide (m.method = "HEAD")) = true
        · rw [if_pos hhead]
          exact .inl rfl
        · rw [if_neg hhead] at h
          exact nomatch h

/--
**No text can do anything to a page.**

Whatever the form, the answer and the catalog say, a page is the template of its shape, with
their texts escaped in the holes of it.  Two pages of one shape have the same marks in the same
order.  And the service sends no other pages, whatever it is sent and whatever its engine holds.
-/
theorem pages_keep_shape :
    (∀ v content, Page.Shows (Page.render v content) v content) ∧
    (∀ v content v' content', Page.shape v content = Page.shape v' content' →
      marks (Page.render v content).toList = marks (Page.render v' content').toList) ∧
    ∀ (e : Engine) (now : String) (m : WebRequest) (j : Journal),
      ((answer e now m).run j).1.IsPage → ((answer e now m).run j).1.body = "" ∨
        ∃ v content, ((answer e now m).run j).1.body = Page.render v content := by
  refine ⟨Page.shows_render, ?_, fun _ _ _ _ => rendered_answer⟩
  intro v content v' content' hshape
  rw [(Page.shows_render v content).marked, (Page.shows_render v' content').marked, hshape]

/-- A form whose amount tries to leave its place on the page. -/
def hostileForm : WebRequest :=
  ⟨"POST", "/ui/execute", some "application/x-www-form-urlencoded",
    "amount=%22%3E%3Cscript%3E&department=it"⟩

/-- What that form says. -/
def hostileValues : FormValues := ⟨"\"><script>", "IT", false⟩

theorem pages_keep_shape_hostile :
    let a := ((answer (engineWithout "disk failure") "" hostileForm).run Journal.empty).1
    a.IsPage ∧ (a.body = "" ∨ ∃ v content, a.body = Page.render v content) ∧
    Page.shape hostileValues (.error "invalid amount \"><script>")
      = Page.shape ⟨"12.50", "IT", false⟩ (.error "no") ∧
    marks (Page.render hostileValues (.error "invalid amount \"><script>")).toList
      = marks (Page.render ⟨"12.50", "IT", false⟩ (.error "no")).toList := by
  intro a
  have hpage : a.IsPage := by
    show a.contentType = _
    decide +kernel
  have hshape : Page.shape hostileValues (.error "invalid amount \"><script>")
      = Page.shape ⟨"12.50", "IT", false⟩ (.error "no") := by decide +kernel
  exact ⟨hpage, pages_keep_shape.2.2 _ _ _ _ hpage, hshape, pages_keep_shape.2.1 _ _ _ _ hshape⟩

end Server

end InvoiceApproval
