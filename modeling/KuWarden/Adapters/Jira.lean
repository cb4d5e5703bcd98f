import KuWarden.Flows.Play
import KuWarden.Nodes.Triage
import KuWarden.Process.Calls
import KuWarden.Process.Follow
import KuWarden.Python.Segments

/-!
Jira's comments: the document a text is posted as, and the two ways of reading one.

A document is a JSON tree. Descriptions are flattened by `adf_text`, which knows the kinds of
nodes; comments are flattened by a walk of its own, which only collects texts.
-/
namespace KuWarden.Jira

/-- The nodes that end a line. -/
def blocks : List String := ["paragraph", "heading", "listItem", "blockquote", "codeBlock"]

/-- `kind in {…}`, which raises on what cannot be an element of a set. -/
def endsLine (kind : Value) : Except PyError Bool :=
  match kind with
  | .list _ | .dict _ | .set _ =>
      .error (Value.typeError ("unhashable type: '" ++ kind.typeName ++ "'"))
  | kind => .ok (blocks.any kind.isStr)

mutual

/-- `_adf_text(node)`. -/
def adfText : Value → Except PyError String
  | .str s => .ok s
  | .list children => adfTexts children
  | .dict entries =>
      let kind := Dict.get entries "type"
      if kind.isStr "text" then .ok (Dict.getD entries "text" (.str "")).text
      else if kind.isStr "hardBreak" then .ok "\n"
      else do
        let inner ← adfContent entries
        if ← endsLine kind then return inner ++ "\n" else return inner
  | _ => .ok ""

def adfTexts : List Value → Except PyError String
  | [] => .ok ""
  | child :: rest => do
      let first ← adfText child
      return first ++ (← adfTexts rest)

/-- `_adf_text(node.get("content", []))`. -/
def adfContent : List (Value × Value) → Except PyError String
  | [] => .ok ""
  | (key, v) :: rest => if key.isStr "content" then adfText v else adfContent rest

end

def adfLine (line : List Char) : Value :=
  if line = [] then .dict [(.str "type", .str "paragraph")]
  else .dict [(.str "type", .str "paragraph"), (.str "content", .list [
    .dict [(.str "type", .str "text"), (.str "text", .str (String.ofList line))]])]

def adfDocument (text : String) : Value := .dict [
  (.str "type", .str "doc"),
  (.str "version", .int 1),
  (.str "content", .list ((Text.splitChars '\n' text.toList).map adfLine))]

mutual

/-- `_text(node)`, the walk of `comments`. -/
def commentText : Value → Except PyError String
  | .dict entries => do
      let inner ← commentContent entries
      return (Dict.getD entries "text" (.str "")).text ++ inner
  | _ => .ok ""

def commentTexts : List Value → Except PyError String
  | [] => .ok ""
  | child :: rest => do
      let first ← commentText child
      return first ++ (← commentTexts rest)

/-- What it makes of `node.get("content", [])`. -/
def commentContent : List (Value × Value) → Except PyError String
  | [] => .ok ""
  | (key, v) :: rest => if key.isStr "content" then commentChildren v else commentContent rest

/-- `for child in v or []`. Neither a character nor the key of an object is a node. -/
def commentChildren : Value → Except PyError String
  | .list children | .tuple children | .set children => commentTexts children
  | .dict _ | .str _ | .bytes _ => .ok ""
  | v => if v.truthy then
      .error (Value.typeError ("'" ++ v.typeName ++ "' object is not iterable"))
    else .ok ""

end

/-- The answer to a request for an issue's comments, as `comments` reads it. -/
def comments (payload : Value) : Except PyError (List String) := do
  let found := match payload with
    | .dict entries => Dict.get entries "comments"
    | _ => .null
  let items ← (found.orElse (.list [])).items
  (items.filterMap fun c => c.asDict.toOption).mapM fun c => commentText (Dict.get c "body")

/-! ## Reading back what was written -/

theorem adf_text_line (line : List Char) :
    adfText (adfLine line) = .ok (String.ofList line ++ "\n") := by
  by_cases empty : line = []
  · subst empty
    rfl
  · rw [adfLine, if_neg empty]
    have inner : adfTexts [.dict [(.str "type", .str "text"),
        (.str "text", .str (String.ofList line))]] = .ok (String.ofList line ++ "") := rfl
    rw [String.append_empty] at inner
    show (do
      let inner ← adfTexts [.dict [(.str "type", .str "text"),
        (.str "text", .str (String.ofList line))]]
      return inner ++ "\n") = _
    rw [inner]
    rfl

theorem comment_text_line (line : List Char) :
    commentText (adfLine line) = .ok (String.ofList line) := by
  by_cases empty : line = []
  · subst empty
    rfl
  · rw [adfLine, if_neg empty]
    have inner : commentTexts [.dict [(.str "type", .str "text"),
        (.str "text", .str (String.ofList line))]] = .ok (String.ofList line ++ "" ++ "") := rfl
    rw [String.append_empty, String.append_empty] at inner
    show (do
      let inner ← commentTexts [.dict [(.str "type", .str "text"),
        (.str "text", .str (String.ofList line))]]
      return "" ++ inner) = _
    rw [inner]
    exact congrArg Except.ok String.empty_append

theorem adf_texts_lines (lines : List (List Char)) :
    adfTexts (lines.map adfLine) =
      .ok (String.ofList (lines.flatMap fun line => line ++ ['\n'])) := by
  induction lines with
  | nil => rfl
  | cons line rest ih =>
      rw [List.map_cons, adfTexts, adf_text_line, ih, List.flatMap_cons, String.ofList_append,
        String.ofList_append]
      rfl

theorem comment_texts_lines (lines : List (List Char)) :
    commentTexts (lines.map adfLine) = .ok (String.ofList lines.flatten) := by
  induction lines with
  | nil => rfl
  | cons line rest ih =>
      rw [List.map_cons, commentTexts, comment_text_line, ih, List.flatten_cons,
        String.ofList_append]
      rfl

theorem adf_text_document (t : String) : adfText (adfDocument t) = .ok (t ++ "\n") := by
  have inner := adf_texts_lines (Text.splitChars '\n' t.toList)
  rw [Text.splitChars_closed, String.ofList_append, String.ofList_toList] at inner
  show (do
    let inner ← adfTexts ((Text.splitChars '\n' t.toList).map adfLine)
    if ← endsLine (.str "doc") then return inner ++ "\n" else return inner) = _
  rw [inner]
  rfl

/-- What `comments` reads of a text. -/
def flattened (t : String) : String := String.ofList (Text.splitChars '\n' t.toList).flatten

/-- Read as a comment, a document has lost the ends of its lines. -/
theorem comment_text_document (t : String) :
    commentText (adfDocument t) = .ok (flattened t) := by
  show (do
    let inner ← commentTexts ((Text.splitChars '\n' t.toList).map adfLine)
    return "" ++ inner) = _
  rw [comment_texts_lines]
  exact congrArg Except.ok String.empty_append

variable {t marker : String} {payload : Value} {bodies : List String}

/-- One of the comments in the answer has this text for its body. -/
def Lists (payload : Value) (t : String) : Prop :=
  ∃ entries items c, payload = .dict entries ∧ Dict.get entries "comments" = .list items ∧
    .dict c ∈ items ∧ Dict.get c "body" = adfDocument t

/-- `any(marker in body for body in bodies)`. -/
def Recognised (marker : String) (bodies : List String) : Prop :=
  bodies.any (Text.occurs marker) = true

theorem mem_of_mapM {α : Type} {f : α → Except PyError String} {xs : List α} {x : α}
    {s : String} (read : xs.mapM f = .ok bodies) (mem : x ∈ xs) (one : f x = .ok s) :
    s ∈ bodies := by
  induction xs generalizing bodies with
  | nil => cases mem
  | cons y ys ih =>
      rw [List.mapM_cons] at read
      cases first : f y with
      | error e =>
          rw [first] at read
          cases read
      | ok b =>
          cases rest : ys.mapM f with
          | error e =>
              rw [first, rest] at read
              cases read
          | ok bs =>
              rw [first, rest] at read
              cases read
              rcases List.mem_cons.mp mem with rfl | later
              · cases first.symm.trans one
                exact List.mem_cons_self
              · exact List.mem_cons_of_mem b (ih rest later)

theorem mem_comments (lists : Lists payload t) (read : comments payload = .ok bodies) :
    flattened t ∈ bodies := by
  obtain ⟨entries, items, c, rfl, found, mem, body⟩ := lists
  have some : Value.truthy (.list items) = true := by
    cases items with
    | nil => cases mem
    | cons item rest => rfl
  rw [comments, found, Value.orElse, if_pos some] at read
  refine mem_of_mapM read (List.mem_filterMap.mpr ⟨.dict c, mem, rfl⟩) ?_
  rw [body]
  exact comment_text_document t

/-- A marker of one line survives, whatever lines stand around it. -/
theorem recognised_of_lists (line : '\n' ∉ marker.toList) (occurs : Text.occurs marker t = true)
    (lists : Lists payload t) (read : comments payload = .ok bodies) :
    Recognised marker bodies := by
  refine List.any_eq_true.mpr ⟨_, mem_comments lists read, ?_⟩
  obtain ⟨piece, mem, within⟩ := Text.infix_splitChars line (Text.occurs_iff.mp occurs)
  rw [Text.occurs_iff, flattened, String.toList_ofList]
  exact within.trans (List.infix_of_mem_flatten mem)

/-! ## The acknowledgement of a ticket -/

section Acknowledgement

open Process

variable {ctx : NodeContext} {provider : TicketProvider} {trigger : TriggerConfig}
  {reply : (op : AdapterOp) → AdapterRep op} {s : FlowState}

/-- What Triage looks for on a ticket before it writes to it. -/
def markerOf (runId : UUID) : String := "kuwarden-run: " ++ runId.text

theorem markerOf_line (runId : UUID) : '\n' ∉ (markerOf runId).toList := by
  rw [markerOf, String.toList_append, List.mem_append, not_or]
  exact ⟨by decide, runId.no_break⟩

/-- A comment that is only made where there is need, and whose failure is let pass. -/
theorem asks_unless (there : Prop) [decision : Decidable there] (ref : TicketRef) (body : String) :
    Task.asks reply s (Task.handle (if there then pure () else Node.ask (.comment provider ref body))
      fun _ => pure ()) = if there then [] else [.comment provider ref body] := by
  cases decision with
  | isTrue _ => rfl
  | isFalse _ =>
      refine congrArg (List.cons _) ?_
      generalize reply (.comment provider ref body) = posted
      cases (posted : Except PyError Unit) <;> rfl

/-- Triage asks for the comments, and writes one that carries the marker if it finds none. -/
theorem asks_acknowledge :
    Task.asks reply s (Triage.acknowledge ctx provider trigger) =
      .comments provider (trigger.ref s.ticket.id) ::
        match (show Except PyError (List String) from
          reply (.comments provider (trigger.ref s.ticket.id))) with
        | .error _ => []
        | .ok bodies => if bodies.any (Text.occurs (markerOf s.runId)) then [] else
            [.comment provider (trigger.ref s.ticket.id)
              ("KuWarden picked this up and started a run.\n\nProvisional risk tier: " ++
                s.riskTier.text ++ " (the authoritative tier is decided after the change " ++
                "exists).\nFollow it here: " ++ ctx.baseUrl ++ "/runs/" ++ s.runId.text ++
                "\n\n" ++ markerOf s.runId)] := by
  refine congrArg (List.cons _) ?_
  generalize reply (.comments provider (trigger.ref s.ticket.id)) = answer
  cases (answer : Except PyError (List String)) with
  | error e => rfl
  | ok bodies => exact asks_unless _ _ _

theorem marked_of_asked {ref : TicketRef} {body : String}
    (asked : .comment provider ref body ∈
      Task.asks reply s (Triage.acknowledge ctx provider trigger)) :
    Text.occurs (markerOf s.runId) body = true := by
  rw [asks_acknowledge, List.mem_cons] at asked
  rcases asked with other | posted
  · cases other
  · split at posted
    · cases posted
    · split at posted
      · cases posted
      · cases List.mem_singleton.mp posted
        rw [Text.occurs_iff, String.toList_append]
        exact List.infix_append_of_infix_right List.infix_rfl

/-- Once it finds its marker, Triage asks for nothing more. -/
theorem asks_recognised {bodies : List String}
    (read : reply (.comments provider (trigger.ref s.ticket.id)) = .ok bodies)
    (found : Recognised (markerOf s.runId) bodies) :
    Task.asks reply s (Triage.acknowledge ctx provider trigger) =
      [.comments provider (trigger.ref s.ticket.id)] := by
  rw [asks_acknowledge, read]
  exact congrArg (List.cons _) (if_pos found)

end Acknowledgement

open Process in
/-- The document of a text is flattened to the text and the end of its last line. A marker of
one line that is in the text is also in what `comments` reads back of it; so a Triage that was
executed once and finds its comment in the answer writes no second one. -/
theorem comment_read_back (t : String) :
    adfText (adfDocument t) = .ok (t ++ "\n") ∧
    (∀ marker : String, '\n' ∉ marker.toList → Text.occurs marker t = true →
      ∀ payload bodies, Lists payload t → comments payload = .ok bodies →
        Recognised marker bodies) ∧
    ∀ ctx trigger reply s ref,
      .comment .jira ref t ∈ Task.asks reply s (Triage.acknowledge ctx .jira trigger) →
      ∀ payload bodies, Lists payload t → comments payload = .ok bodies →
      ∀ ctx' trigger' reply' s', s'.runId = s.runId →
        reply' (.comments .jira (trigger'.ref s'.ticket.id)) = .ok bodies →
        Task.asks reply' s' (Triage.acknowledge ctx' .jira trigger') =
          [.comments .jira (trigger'.ref s'.ticket.id)] := by
  refine ⟨adf_text_document t, ?_, ?_⟩
  · intro marker line occurs payload bodies lists read
    exact recognised_of_lists line occurs lists read
  · intro ctx trigger reply s ref asked payload bodies lists read ctx' trigger' reply' s' same
      answered
    refine asks_recognised answered ?_
    rw [same]
    exact recognised_of_lists (markerOf_line s.runId) (marked_of_asked asked) lists read

/-- The answer for a ticket with comments of these two texts. -/
def discussion (other t : String) : Value := .dict [(.str "comments", .list [
  .dict [(.str "id", .str "1"), (.str "body", adfDocument other)],
  .dict [(.str "id", .str "2"), (.str "body", adfDocument t)]])]

theorem lists_discussion (other t : String) : Lists (discussion other t) t :=
  ⟨_, _, _, rfl, rfl, .tail _ (.head _), rfl⟩

theorem comments_discussion (other t : String) :
    comments (discussion other t) = .ok [flattened other, flattened t] := by
  have first := comment_text_document other
  have second := comment_text_document t
  unfold comments discussion
  -- neither document is of any more concern than what is read of it
  generalize adfDocument other = u at first ⊢
  generalize adfDocument t = v at second ⊢
  have each : ([[(.str "id", .str "1"), (.str "body", u)],
      [(.str "id", .str "2"), (.str "body", v)]] : List Dict).mapM
      (fun c => commentText (Dict.get c "body")) = .ok [flattened other, flattened t] := by
    have found : ∀ id body, Dict.get [(.str "id", id), (.str "body", body)] "body" = body :=
      fun _ _ => rfl
    rw [List.mapM_cons, List.mapM_cons, List.mapM_nil, found, found, first, second]
    rfl
  exact each

def shopTrigger : TriggerConfig where
  provider := "jira"
  project := "SHOP"

def picker : NodeContext := ⟨Flow.shopConfig, Flow.plainWorker.reading, "https://warden", true⟩

def discussing (bodies : List String) : (op : AdapterOp) → AdapterRep op
  | .comments _ _ => .ok bodies
  | op => Flow.oblige op

def picked : FlowState := { (default : FlowState) with ticket := Flow.shopTicket }

open Process in
/-- Triage comments on a ticket, and a second one that finds the comment does not. -/
theorem comment_read_back_discussed : ∃ t,
    .comment .jira (shopTrigger.ref "SHOP-1") t ∈
        Task.asks Flow.oblige picked (Triage.acknowledge picker .jira shopTrigger) ∧
      adfText (adfDocument t) = .ok (t ++ "\n") ∧
      Recognised (markerOf ⟨0⟩) [flattened "Please hurry.\n\nThanks", flattened t] ∧
      Task.asks (discussing [flattened "Please hurry.\n\nThanks", flattened t]) picked
          (Triage.acknowledge picker .jira shopTrigger) =
        [.comments .jira (shopTrigger.ref "SHOP-1")] := by
  have asked : ∃ t, .comment .jira (shopTrigger.ref "SHOP-1") t ∈
      Task.asks Flow.oblige picked (Triage.acknowledge picker .jira shopTrigger) := by
    rw [asks_acknowledge]
    exact ⟨_, .tail _ (.head _)⟩
  obtain ⟨t, asked⟩ := asked
  obtain ⟨back, marked, once⟩ := comment_read_back t
  have lists := lists_discussion "Please hurry.\n\nThanks" t
  have read := comments_discussion "Please hurry.\n\nThanks" t
  exact ⟨t, asked, back, marked _ (markerOf_line _) (marked_of_asked asked) _ _ lists read,
    once _ _ _ _ _ asked _ _ lists read _ _ _ picked rfl rfl⟩

/-- Empty lines at both ends and between. -/
example : adfText (adfDocument "\na\n\nb\n") = .ok "\na\n\nb\n\n" := adf_text_document _

end KuWarden.Jira
