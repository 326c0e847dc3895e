import PolicyDecision.Proofs.Codec.Result

/-!
# Documents as texts

Requests, results and permissions are sent as texts. A faithful text format keeps them:
whatever is written is read back as it was, and what is read from a text somebody else
wrote stays the same when it is written and read again, although the new text may differ.
Data with doubles are left out.
-/

namespace PolicyDecision

/-! ## Data in texts -/

/-- A text denotes the value as one of a datatype other than double. -/
def Value.IsParsed (value : Value) : Prop :=
  ∃ datatype lexical, datatype ≠ .double ∧ Value.parse datatype lexical = .ok value

theorem Value.IsParsed.isLexical
    {value : Value}
    (parsed : value.IsParsed) : value.IsLexical := by
  obtain ⟨datatype, lexical, exact, denotes⟩ := parsed
  exact (isLexical_of_read exact (parse_eq_ok_iff.mp denotes)).2

theorem Value.IsDenoted.isParsed
    {value : Value}
    (denoted : value.IsDenoted)
    (exact : value.datatype ≠ .double) : value.IsParsed := by
  obtain ⟨datatype, lexical, denotes⟩ := denoted
  refine ⟨datatype, lexical, ?_, denotes⟩
  rintro rfl
  have isRead := parse_eq_ok_iff.mp denotes
  unfold read at isRead
  dsimp only at isRead
  split at isRead
  · cases isRead
    exact exact rfl
  · cases isRead

/-- The tree at a field of a table. -/
def DataTree.field? : DataTree → String → Option DataTree
  | .table entries, name => entry? entries name
  | _, _ => none

/-- A text that need not be there is written to a field of its own, and to none when it is
not there. -/
def WritesOptional
    {α : Type}
    (encode : α → DataTree)
    (name : String)
    (text? : α → Option String) : Prop :=
  ∀ data, (encode data).field? name = (text? data).map DataTree.string

namespace TextFormat

variable {α : Type}

/-- The text of data. -/
def writeData (format : TextFormat) (encode : α → DataTree) (data : α) : String :=
  format.write (encode data)

/-- The data that a text holds. -/
def readData (format : TextFormat) (decode : Decoder α) (text : String) : Except DecodeFault α :=
  match format.read? text with
  | some tree => decode tree
  | none => .error .shape

/-- Data whose values are parsed texts are read back from their own text. Data that are
read from any text at all, with no doubles among their values, are read back as well. -/
structure Keeps
    (format : TextFormat)
    (encode : α → DataTree)
    (decode : Decoder α)
    (values : α → List Value) : Prop where
  reads : ∀ data, (∀ value ∈ values data, value.IsParsed) →
    format.readData decode (format.writeData encode data) = .ok data
  settles : ∀ text data, format.readData decode text = .ok data →
    (∀ value ∈ values data, value.datatype ≠ .double) →
      format.readData decode (format.writeData encode data) = .ok data

/-- Data with a lossless form are kept by a faithful format. -/
theorem Faithful.keeps
    {format : TextFormat}
    (faithful : format.Faithful)
    {encode : α → DataTree}
    {decode : Decoder α}
    {values : α → List Value}
    (lossless : Lossless encode decode values 127) : format.Keeps encode decode values := by
  have reads (data : α) (parsed : ∀ value ∈ values data, value.IsParsed) :
      format.readData decode (format.writeData encode data) = .ok data := by
    rw [readData, writeData, faithful _ (lossless.isPlain data)]
    exact lossless.decode_encode data fun value held => (parsed value held).isLexical
  refine ⟨reads, fun text data isRead exact => reads data fun value held => ?_⟩
  unfold readData at isRead
  split at isRead
  · exact (lossless.denoted _ data isRead value held).isParsed (exact value held)
  · cases isRead

/-- The format keeps requests, individual requests, results and permissions. Their
optional texts leave no trace when they are not there. -/
structure KeepsDocuments (format : TextFormat) : Prop where
  request : format.Keeps Request.encode Request.decode Request.values
  individualRequest :
    format.Keeps IndividualRequest.encode IndividualRequest.decode IndividualRequest.values
  evaluationResult :
    format.Keeps EvaluationResult.encode EvaluationResult.decode EvaluationResult.values
  decisionResult : format.Keeps DecisionResult.encode DecisionResult.decode DecisionResult.values
  permissionsResult :
    format.Keeps PermissionsResult.encode PermissionsResult.decode PermissionsResult.values
  message : WritesOptional Status.encode "message" Status.message
  issuer : WritesOptional Attribute.encode "issuer" Attribute.issuer
  category : WritesOptional Assignment.encode "category" Assignment.category
  version : WritesOptional PolicyIdentifier.encode "version" PolicyIdentifier.version

/-- Every faithful text format keeps requests, results and permissions. -/
theorem Faithful.keepsDocuments
    {format : TextFormat}
    (faithful : format.Faithful) : format.KeepsDocuments where
  request := faithful.keeps Request.lossless
  individualRequest := faithful.keeps IndividualRequest.lossless
  evaluationResult := faithful.keeps EvaluationResult.lossless
  decisionResult := faithful.keeps DecisionResult.lossless
  permissionsResult := faithful.keeps PermissionsResult.lossless
  message := by
    rintro ⟨code, _ | message⟩ <;> rfl
  issuer := by
    rintro ⟨id, _ | issuer, values, includeInResult⟩ <;> rfl
  category := by
    rintro ⟨attributeId, _ | category, value⟩ <;> rfl
  version := by
    rintro ⟨id, _ | version⟩ <;> rfl

/-- Permissions of two decisions with a value from a text that is not canonical, and a
denial in a text with blanks, a null and an unknown field. -/
theorem keepsDocuments_of_json :
    let greeting : Value := .string "\"\u00e9\" \n😀"
    let obligation : Obligation :=
      ⟨"greet", [⟨"text", none, greeting⟩, ⟨"loud", some "c", .boolean true⟩]⟩
    let permissions : PermissionsResult :=
      ⟨.ofList
        [(.permit, .ofList [("read", ⟨["p"], [obligation]⟩)]), (.indeterminateDeny, .empty)]⟩
    let text :=
      "\x7b \"decision\": \"deny\",\n\"status\":\x7b\"code\":\"ok\",\"message\":null\x7d,\"x\":-1\x7d"
    let denial : DecisionResult := .withStatus .deny .ok
    Json.format.Faithful ∧
    Json.format.readData PermissionsResult.decode
        (Json.format.writeData PermissionsResult.encode permissions) = .ok permissions ∧
    Json.format.readData DecisionResult.decode text = .ok denial ∧
    Json.format.writeData DecisionResult.encode denial ≠ text ∧
    Json.format.readData DecisionResult.decode
        (Json.format.writeData DecisionResult.encode denial) = .ok denial := by
  intro greeting obligation permissions text denial
  have parsed (value : Value) (held : value ∈ permissions.values) : value.IsParsed := by
    rcases List.mem_pair.mp (show value ∈ [greeting, .boolean true] from held) with rfl | rfl
    · exact ⟨.string, "\"\u00e9\" \n😀", by decide, rfl⟩
    · exact ⟨.boolean, " 1", by decide, rfl⟩
  have treeRead : Json.read? text = some (.table
      [("decision", .string "deny"),
        ("status", .table [("code", .string "ok"), ("message", .null)]),
        ("x", .number "-1")]) := by
    dsimp only [text]
    rfl
  have isRead : Json.format.readData DecisionResult.decode text = .ok denial := by
    rw [readData, show Json.format.read? text = _ from treeRead]
    rfl
  have kept := Faithful.keepsDocuments Json.format_faithful
  refine ⟨Json.format_faithful, kept.permissionsResult.reads permissions parsed, isRead, ?_,
    kept.decisionResult.settles text denial isRead fun value held => nomatch held⟩
  decide

end TextFormat
end PolicyDecision
