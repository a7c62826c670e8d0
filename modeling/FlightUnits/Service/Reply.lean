import FlightUnits.Calculator
import FlightUnits.Json.Reader
import FlightUnits.Listing
import FlightUnits.Program
import FlightUnits.Service.Query
import FlightUnits.Service.Route
import FlightUnits.Text.Encoding

/-!
# Replies of the service

What the service answers to a request. A body is read as JSON when its content type says so, and
then as the record that the route takes; everything wrong with it is answered together, with the
data to which it applies. The faults that a route reports are answered with their text. Each route
reports its own kinds of faults, and a fault of another kind is no answer at all. Neither is an
answer that could not be written: one with a number that JSON has no numeral for, or with a
surrogate code.
-/

namespace FlightUnits.Service

/-- A request to the service. -/
structure HttpRequest where
  method : String
  path : String
  query : String
  contentType : String
  body : String

/-- Why a request gets no answer. -/
inductive Breakdown where
  /-- A fault that is not reported. -/
  | fault (fault : Fault Number)
  /-- An answer with a number that JSON has no numeral for. -/
  | nonFinite
  /-- An answer with a surrogate code. -/
  | surrogate

/-- An answer of the service. -/
inductive Reply where
  /-- A result, or the detail of a refusal. -/
  | json (status : Nat) (tree : Json)
  /-- A redirection, which has no body. -/
  | redirection
  /-- What is wrong with the data. -/
  | invalid (issues : List Issue)
  /-- No answer. -/
  | crash (cause : Breakdown)

namespace Reply

/-- A refusal with a text. -/
def refusal (status : Nat) (detail : String) : Reply :=
  if Text.hasSurrogate detail then .crash .surrogate
  else .json status (.object [("detail", .text detail)])

/-- A refusal of data with everything that is wrong with it. -/
def ofIssues (issues : List Issue) : Reply :=
  if issues.any fun issue => issue.data.holds Json.isNonFinite then .crash .nonFinite
  else if issues.any fun issue => issue.data.holds Json.hasSurrogate then .crash .surrogate
  else .invalid issues

/-- The status of an answer. -/
def status : Reply → Nat
  | json status _ => status
  | redirection => 307
  | invalid _ => 422
  | crash _ => 500

end Reply

/-- The name of a kind of issue in answers. -/
def issueName (k : IssueKind) : String :=
  if k = .notARecord then "model_attributes_type" else k.name

/-- Whether a character of a header is a space; only ASCII characters are. -/
def isHeaderSpace (c : Char) : Bool := Text.isSpace c && c.toNat < 0x80

/-- What a content type is apart from its parameters, in lower case. -/
def mediaType (contentType : String) : String :=
  let named := (contentType.toList.takeWhile (· != ';')).dropWhile isHeaderSpace
  String.ofList ((named.reverse.dropWhile isHeaderSpace).reverse.map Char.toLower)

/-- Whether a content type says that a body is JSON. -/
def isJsonType (contentType : String) : Bool :=
  match (mediaType contentType).toList.splitOn '/' with
  | [main, sub] =>
    main == "application".toList && (sub == "json".toList || "+json".toList.isSuffixOf sub)
  | _ => false

/-- What a body holds; `none` when it is no text, or is too deep or too large to be read. -/
def bodyData (contentType body : String) : Option (Checked Json) :=
  if body.isEmpty then some (Checked.refuse .missing .null)
  else if !isJsonType contentType then some (.ok (.text body))
  else
    match Text.decode? body with
    | none => none
    | some text =>
      match Json.read (String.ofList text) with
      | .ok data => some (.ok data)
      | .error .malformed => some (Checked.refuse .malformed .null)
      | .error .tooManyDigits | .error .tooDeep => none

/-- The answer to a body that makes a record, given what is done with the record. -/
def replyToBody {β : Type} (read : Json → Checked β) (reported : FaultKind → Bool)
    (perform : β → Except (Fault Number) Json) (contentType body : String) : Reply :=
  match bodyData contentType body with
  | none => .refusal 400 "There was an error parsing the body"
  | some data =>
    match Checked.inside "body" (data.bind read) with
    | .error issues => .ofIssues issues
    | .ok request =>
      match perform request with
      | .ok tree => .json 200 tree
      | .error f => if reported f.kind then .refusal 400 f.message else .crash (.fault f)

/-- The answer to a listing. -/
def replyWith {β : Type} (encode : β → Json) (result : Except (Fault Number) β) : Reply :=
  match result with
  | .ok x => .json 200 (encode x)
  | .error f => .crash (.fault f)

/-- Whether the service works. -/
def health : Reply :=
  .json 200 (.object [("status", .text "healthy"), ("version", .text Program.version)])

/-- The units, or those of the dimension that the query names. -/
def units (t : Tables Number) (query : String) : Reply :=
  match Query.value? query "dimension" with
  | none => replyWith (fun infos => .array (infos.map UnitInfo.toJson)) (listUnits t.units none)
  | some id =>
    match Dimension.ofId? id with
    | some d =>
      replyWith (fun infos => .array (infos.map UnitInfo.toJson)) (listUnits t.units (some d))
    | none => .ofIssues [⟨.notAMember, ["query", "dimension"], .text id⟩]

/-- A single unit. -/
def unit (t : Tables Number) (id : String) : Reply :=
  match MeasureUnit.ofId? id with
  | some u => replyWith UnitInfo.toJson (t.units.info u)
  | none => .refusal 404 ("Unknown unit '" ++ id ++ "'.")

/-- The dimensions. -/
def dimensions (t : Tables Number) : Reply :=
  replyWith (fun infos => .array (infos.map DimensionInfo.toJson)) (listDimensions t)

/-- A conversion, which reports the faults of units. -/
def convert (t : Tables Number) (contentType body : String) : Reply :=
  replyToBody Request.conversion FaultKind.isUnitFault
    (fun request => (convertQuantity t.units request).map ConversionResult.toJson) contentType body

/-- A calculation. -/
def calculate (t : Tables Number) (contentType body : String) : Reply :=
  replyToBody Request.calculation FaultKind.isCalculationFault
    (fun request => (FlightUnits.calculate t request).map CalculationResult.toJson)
    contentType body

/-- A dynamic pressure, which reports the faults of values. -/
def dynamicPressure (t : Tables Number) (contentType body : String) : Reply :=
  replyToBody Request.dynamicPressure FaultKind.isValueFault
    (fun request => (answerPressure t.units request).map Quantity.toJson) contentType body

/-- A stall speed. -/
def stallSpeed (t : Tables Number) (contentType body : String) : Reply :=
  replyToBody Request.stallSpeed FaultKind.isCalculationFault
    (fun request => (answerStallSpeed t.units request).map Quantity.toJson) contentType body

/-- The answer of a route. -/
def answer (t : Tables Number) (request : HttpRequest) : Route → Reply
  | .health => health
  | .units => units t request.query
  | .unit id => unit t id
  | .dimensions => dimensions t
  | .convert => convert t request.contentType request.body
  | .calculate => calculate t request.contentType request.body
  | .dynamicPressure => dynamicPressure t request.contentType request.body
  | .stallSpeed => stallSpeed t request.contentType request.body

/-- The answer to a request. -/
def reply (t : Tables Number) (request : HttpRequest) : Reply :=
  match Destination.of request.method request.path with
  | .reached route => answer t request route
  | .wrongMethod => .refusal 405 "Method Not Allowed"
  | .redirected => .redirection
  | .nowhere => .refusal 404 "Not Found"

end FlightUnits.Service
