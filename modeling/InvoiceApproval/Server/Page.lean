/-
The page on which a person tries the workflow.

A page is a list of pieces.  A piece is either markup, which is fixed, or text, which
comes from the form, the answer or the catalog.  Only here do pieces become a string,
and text is escaped on the way: no character of it can open or close a tag or leave a
quoted attribute.  So the markup of a page does not hang on any text in it.
-/
import InvoiceApproval.Response
import InvoiceApproval.Server.Form

namespace InvoiceApproval

/-- A piece of a page. -/
inductive Piece where
  | markup (content : String)
  | text (content : String)
deriving DecidableEq, Repr

namespace Piece

/-- A character of a text as it stands in a page. -/
def escapeChar (c : Char) : List Char :=
  match c with
  | '&' => "&amp;".toList
  | '<' => "&lt;".toList
  | '>' => "&gt;".toList
  | '"' => "&quot;".toList
  | '\x27' => "&#x27;".toList
  | '/' => "&#x2F;".toList
  | c => [c]

/-- A piece as it stands in a page. -/
def chars : Piece → List Char
  | markup content => content.toList
  | text content => content.toList.flatMap escapeChar

end Piece

/-- What a page shows below its form. -/
inductive PageContent where
  | nothing
  | error (message : String)
  | result (response : Response)

namespace Page

/-- Lines of markup with a line break between each two. -/
def lines (ls : List String) : String := "\n".intercalate ls

/-! ### The head -/

/-- How the page looks. -/
def style : String :=
  lines [
    "    body \x7b font-family: system-ui, sans-serif; background: #f3f4f6; margin: 0; "
      ++ "padding: 3rem 1rem; color: #111827; \x7d",
    "    main \x7b max-width: 48rem; margin: 0 auto; \x7d",
    "    header \x7b text-align: center; margin-bottom: 2rem; \x7d",
    "    header p \x7b color: #4b5563; \x7d",
    "    .card \x7b background: #fff; border-radius: 0.5rem; "
      ++ "box-shadow: 0 1px 3px rgba(0, 0, 0, 0.1); padding: 1.5rem; margin-bottom: 1.5rem; \x7d",
    "    label \x7b display: block; font-size: 0.875rem; font-weight: 500; color: #374151; "
      ++ "margin-bottom: 0.25rem; \x7d",
    "    input[type=\"text\"], select \x7b width: 100%; box-sizing: border-box; "
      ++ "padding: 0.5rem; border: 1px solid #d1d5db; border-radius: 0.375rem; \x7d",
    "    .field \x7b margin-bottom: 1.25rem; \x7d",
    "    .checkbox label \x7b display: inline; margin-left: 0.5rem; \x7d",
    "    button \x7b width: 100%; padding: 0.5rem 1rem; border: 0; "
      ++ "border-radius: 0.375rem; background: #2563eb; color: #fff; font-weight: 500; "
      ++ "cursor: pointer; \x7d",
    "    .error \x7b background: #fef2f2; border: 1px solid #fecaca; color: #991b1b; \x7d",
    "    .success \x7b background: #f0fdf4; border: 1px solid #bbf7d0; color: #166534; "
      ++ "border-radius: 0.5rem; padding: 1rem; \x7d",
    "    .summary \x7b display: grid; grid-template-columns: 1fr 1fr; gap: 1rem; "
      ++ "margin: 1rem 0 1.5rem; \x7d",
    "    .summary div \x7b background: #f9fafb; padding: 0.75rem; border-radius: 0.25rem; \x7d",
    "    .summary .muted \x7b font-size: 0.875rem; color: #6b7280; margin: 0; \x7d",
    "    .summary strong \x7b display: block; \x7d",
    "    .approver \x7b background: #eff6ff; padding: 0.75rem; border-radius: 0.5rem; "
      ++ "margin-bottom: 0.75rem; \x7d",
    "    .badge \x7b display: inline-block; padding: 0.125rem 0.5rem; "
      ++ "border-radius: 0.25rem; font-size: 0.75rem; background: #e5e7eb; \x7d",
    "    .badge.manager \x7b background: #e9d5ff; color: #6b21a8; \x7d"]

/-- Everything before the amount in the form. -/
def opening : String :=
  lines [
    "<!DOCTYPE html>",
    "<html lang=\"en\">",
    "<head>",
    "  <meta charset=\"utf-8\">",
    "  <meta name=\"viewport\" content=\"width=device-width, initial-scale=1\">",
    "  <title>Invoice Approval Workflow</title>",
    "  <style>",
    style,
    "  </style>",
    "</head>",
    "<body>",
    "<main>",
    "  <header>",
    "    <h1>Invoice Approval Workflow</h1>",
    "    <p>Submit an invoice for approval routing</p>",
    "  </header>",
    "",
    "  <section class=\"card\">",
    "    <form method=\"post\" action=\"/ui/execute\">",
    "      <div class=\"field\">",
    "        <label for=\"amount\">Invoice Amount (USD)</label>",
    "        <input type=\"text\" id=\"amount\" name=\"amount\" inputmode=\"decimal\" "
      ++ "placeholder=\"0.00\" value=\""]

/-! ### The form -/

/-- What stands between the amount and the departments. -/
def formMiddle : String :=
  lines [
    "\" required>",
    "      </div>",
    "",
    "      <div class=\"field\">",
    "        <label for=\"department\">Department</label>",
    "        <select id=\"department\" name=\"department\">",
    "          "]

/-- What stands between the departments and the mark of the box. -/
def formBox : String :=
  lines [
    "",
    "        </select>",
    "      </div>",
    "",
    "      <div class=\"field checkbox\">",
    "        <input type=\"checkbox\" id=\"requires_manager_approval\" "
      ++ "name=\"requires_manager_approval\""]

/-- What stands behind the mark of the box. -/
def formEnd : String :=
  lines [
    ">",
    "        <label for=\"requires_manager_approval\">Requires Manager Approval</label>",
    "      </div>",
    "",
    "      <button type=\"submit\">Execute Workflow</button>",
    "    </form>",
    "  </section>",
    "",
    "  "]

/-- One department to choose from. -/
def option (chosen : String) (d : Department) : List Piece :=
  [.markup <| lines ["", "          <option value=\""], .text d.name, .markup "\""]
    ++ (if d.name = chosen then [.markup " selected"] else [])
    ++ [.markup ">", .text d.name, .markup <| lines ["</option>", "          "]]

/-- The form with what has been entered. -/
def form (v : FormValues) : List Piece :=
  [.markup opening, .text v.amount, .markup formMiddle]
    ++ Department.all.flatMap (option v.department)
    ++ [.markup formBox]
    ++ (if v.requiresManagerApproval then [.markup " checked"] else [])
    ++ [.markup formEnd]

/-! ### The content -/

/-- What went wrong. -/
def error (message : String) : List Piece :=
  [.markup <| lines ["", "  <section class=\"card error\">", "    <h3>Error</h3>", "    <p>"],
    .text message,
    .markup <| lines ["</p>", "  </section>", "  "]]

/-- What was decided, in short. -/
def summary (r : Response) : List Piece :=
  [.markup <| lines [
      "",
      "  <section class=\"card\">",
      "    <h2>Workflow Result</h2>",
      "    <p class=\"success\">"],
    .text r.message,
    .markup <| lines [
      "</p>",
      "",
      "    <div class=\"summary\">",
      "      <div><p class=\"muted\">Amount</p><strong>$"],
    .text r.amount.toText,
    .markup <| lines ["</strong></div>", "      <div><p class=\"muted\">Department</p><strong>"],
    .text r.department.name,
    .markup <| lines [
      "</strong></div>",
      "      <div><p class=\"muted\">Manager Approval Required</p><strong>"],
    .markup (if r.requiresManagerApproval then "Yes" else "No"),
    .markup <| lines ["</strong></div>", "    </div>", "", "    <h3>Rules Applied</h3>", "    "]]

/-- An item of a list. -/
def item (content : String) : List Piece :=
  [.markup <| lines ["", "      <li>"], .text content, .markup <| lines ["</li>", "      "]]

/-- The rules that hold of the request. -/
def rules (names : List String) : List Piece :=
  if names.isEmpty then
    [.markup <| lines ["", "    <p>No rule matched</p>", "    "]]
  else
    [.markup <| lines ["", "    <ul>", "      "]]
      ++ names.flatMap item
      ++ [.markup <| lines ["", "    </ul>", "    "]]

/-- One of the approvers selected. -/
def approver (a : Approver) : List Piece :=
  [.markup <| lines ["", "    <div class=\"approver\">", "      <strong>"],
    .text a.name,
    .markup <| lines ["</strong>", "      <div>"],
    .text a.email,
    .markup <| lines ["</div>", "      "]]
    ++ (match a.department with
      | some d => [.markup "<span class=\"badge\">", .text d.name, .markup "</span>"]
      | none => [])
    ++ [.markup <| lines ["", "      "]]
    ++ (if a.isManager then [.markup "<span class=\"badge manager\">Manager</span>"] else [])
    ++ [.markup <| lines ["", "    </div>", "    "]]

/-- The approvers selected. -/
def approvers (selected : List Approver) : List Piece :=
  [.markup <| lines ["", "", "    <h3>Selected Approvers</h3>", "    "]]
    ++ (if selected.isEmpty
      then [.markup <| lines ["", "    <p>No approvers selected</p>", "    "]] else [])
    ++ [.markup <| lines ["", "    "]]
    ++ selected.flatMap approver

/-- The confirmations. -/
def notifications (confirmations : List String) : List Piece :=
  [.markup <| lines ["", "", "    <h3>Notifications Sent</h3>", "    <ul>", "      "]]
    ++ confirmations.flatMap item
    ++ [.markup <| lines ["", "    </ul>", "  </section>", "  "]]

/-- What was decided. -/
def result (r : Response) : List Piece :=
  summary r ++ rules r.rulesApplied ++ approvers r.selected ++ notifications r.confirmations

/-! ### The page -/

/-- The pieces of a page. -/
def pieces (v : FormValues) (content : PageContent) : List Piece :=
  form v
    ++ (match content with
      | .error message => error message
      | _ => [])
    ++ [.markup <| lines ["", "", "  "]]
    ++ (match content with
      | .result response => result response
      | _ => [])
    ++ [.markup <| lines ["", "</main>", "</body>", "</html>", ""]]

/-- The text of a page. -/
def render (v : FormValues) (content : PageContent) : String :=
  String.ofList ((pieces v content).flatMap Piece.chars)

end Page

end InvoiceApproval
