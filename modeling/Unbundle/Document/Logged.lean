import Unbundle.Document.Passage

/-!
# Documents over the web

A document comes in the body of a request, and what is done with it is logged. Pages are kept in a
bucket and moods in a table.
-/

namespace Unbundle.Document.Logged

open Service Service.Flow

def respond (status : Int) (body : Value) : Flow Value := do
  return answer status openHeaders (← body.toJson)

def refuse (status : Int) (text : String) : Flow Value := do
  return .map [("statusCode", .int status), ("body", ← (message "error" text).toJson)]

def answered (doing failure : String) (flow : Flow Value) : Flow Value :=
  flow.attempt fun e => do
    log .error s!"Error {doing}: {e.message}"
    respond 500 (.map [("error", .text failure), ("message", .text e.message)])

def nameOf (event : Value) : Except Fault Value := do
  if (← event.get "queryStringParameters").truthy then
    let name ← (← event.field "queryStringParameters").get "filename"
    return if name.truthy then name else .null
  else return .null

def decodedBody (event : Value) : Except Fault Value := do
  let body ← event.field "body"
  if (← event.getD "isBase64Encoded" (.bool false)).truthy then (← fromBase64 body).decoded
  else return body

def scoreLine (scores : Value) : List String → Except Fault (List String)
  | [] => .ok []
  | name :: names => do
    let score := String.ofList (← (← scores.field name).fixed 3)
    let rest ← scoreLine scores names
    return s!"{name}={score}" :: rest

def analyze (event : Value) : Flow Value :=
  answered "analyzing sentiment" "Failed to analyze sentiment" do
    log .info "Starting sentiment analysis"
    if !(← event.holdsName "body") then refuse 400 "No text content provided"
    else do
      let given ← nameOf event
      let name := if given.truthy then given else .text "unknown.txt"
      let passage ← charsOf (← decodedBody event)
      if byteLimit < Text.byteLength passage then
        log .warning
          s!"Text too long ({Text.byteLength passage} bytes), truncating to first {byteLimit} bytes"
      let mood ← Mood.ofPassage (fit passage)
      log .info s!"Sentiment analysis completed for {name.str}: {mood.sentiment.str}"
      let scores ← scoreLine mood.scores ["Positive", "Negative", "Neutral", "Mixed"]
      let line := String.intercalate ", " scores
      log .info s!"Sentiment scores: {line}"
      respond 200 (.map [("sentiment", mood.sentiment), ("sentiment_scores", mood.scores),
        ("filename", name), ("message", .text "Sentiment analysis successful")])

def needed (s : Setting) (name : String) : Except Fault String :=
  (s.given? name).elim (.error (.refused s!"{name} environment variable not set")) .ok

/-- A name without its extension: all before the last dot, unless nothing but dots comes before it in
its last component. -/
def withoutExtension (cs : List Char) : List Char :=
  let last := Text.afterLast '/' cs
  let extension := Text.afterLast '.' last
  let stem := last.take (last.length - extension.length - 1)
  if last.contains '.' && stem.any (· ≠ '.') then
    cs.take (cs.length - extension.length - 1)
  else cs

def pageName (document : Value) : Except Fault Value := do
  let name ← document.textFor "endswith"
  if name.endsWith ".md" || name.endsWith ".markdown" then
    return .ofChars (withoutExtension name.toList ++ ".html".toList)
  else return .text (name ++ ".html")

def keyStamp (t : Moment) : String :=
  String.ofList (Number.digits t.year ++ Moment.padded 2 t.month ++ Moment.padded 2 t.day ++
    '_' :: Moment.padded 2 t.hour ++ Moment.padded 2 t.minute ++ Moment.padded 2 t.second)

def keepPage (s : Setting) (bucket : String) (event name page : Value) : Flow Value := do
  let stamp := keyStamp s.now
  let key := s!"html/{stamp}_{name.str}"
  let content ← charsOf page
  let kind ← (← event.getD "headers" (.map [])).getD "content-type" (.text "unknown")
  let _ ← client "s3" "put_object" [("Bucket", .text bucket), ("Key", .text key),
    ("Body", .bytes (Text.encode content)), ("ContentType", .text "text/html"),
    ("Metadata", .map [("original-content-type", kind), ("conversion-timestamp", .text stamp)])]
  let place := s!"s3://{bucket}/{key}"
  log .info s!"Successfully converted markdown to HTML: {place}"
  respond 200 (.map [("html_file", .text place), ("filename", name), ("s3_key", .text key),
    ("bucket", .text bucket), ("message", .text "Conversion successful"),
    ("timestamp", .text stamp)])

def convert (s : Setting) (event : Value) : Flow Value :=
  answered "converting markdown to HTML" "Failed to convert markdown to HTML" do
    log .info "Starting markdown to HTML conversion"
    let bucket ← needed s "OUTPUT_BUCKET"
    if !(← event.holdsName "body") then refuse 400 "No file content provided"
    else do
      let given ← nameOf event
      let name ← if given.truthy then pageName given else pure (.text "converted.html")
      let page ← toPage (← decodedBody event)
      keepPage s bucket event name page

def retrieve (table : String) (event : Value) : Flow Value := do
  let name ← (← event.getD "pathParameters" (.map [])).get "filename"
  if !name.truthy then refuse 400 "Filename parameter is required"
  else do
    let reply ← ask table (.get [("filename", name)])
    if !(← reply.holdsName "Item") then
      refuse 404 s!"Sentiment analysis not found for {name.str}"
    else do
      let item ← reply.field "Item"
      let sentiment ← item.get "overall_sentiment"
      log .info s!"Retrieved sentiment results for {name.str}: {sentiment.str}"
      let stored ← item.field "filename"
      let modified ← item.field "last_modified"
      let sentiment ← item.field "overall_sentiment"
      let positive ← item.field "positive"
      let negative ← item.field "negative"
      let neutral ← item.field "neutral"
      let mixed ← item.field "mixed"
      respond 200 (.map [("filename", stored), ("last_modified", modified),
        ("overall_sentiment", sentiment), ("scores", .map [("positive", positive),
          ("negative", negative), ("neutral", neutral), ("mixed", mixed)]),
        ("message", .text "Sentiment results retrieved successfully")])

def bodyMood (event : Value) : Except Fault (Value × Value) := do
  let body ← (← decodedBody event).parsed
  let name ← body.get "filename"
  let mood ← body.get "sentiment_data"
  if !mood.truthy then
    if ← body.holdsName "sentiment" then
      let sentiment ← body.get "sentiment"
      let scores ← body.getD "sentiment_scores" (.map [])
      return (name, .map [("Sentiment", sentiment), ("SentimentScore", scores)])
  return (name, mood)

def givesMood (event : Value) : Except Fault Bool := do
  if ← event.holdsName "filename" then event.holdsName "sentiment_data" else return false

def sentMood (event : Value) : Except Fault (Value × Value) := do
  if ← givesMood event then
    let name ← event.field "filename"
    let mood ← event.field "sentiment_data"
    return (name, mood)
  else if ← event.holdsName "body" then bodyMood event
  else return (.null, .null)

def isMood (mood : Value) : Except Fault Bool := do
  if ← mood.holdsName "Sentiment" then mood.holdsName "SentimentScore" else return false

def save (s : Setting) (table : String) (event : Value) : Flow Value := do
  let (name, mood) ← sentMood event
  if !name.truthy || !mood.truthy then refuse 400 "Filename and sentiment_data are required"
  else if !(← isMood mood) then
    refuse 400 "sentiment_data must contain Sentiment and SentimentScore keys"
  else do
    let sentiment ← mood.field "Sentiment"
    let scores ← scoreTexts (← mood.field "SentimentScore")
    let head := [("filename", name), ("last_modified", s.stamp), ("overall_sentiment", sentiment)]
    let _ ← ask table (.put (head ++ scores) none)
    log .info
      s!"Sentiment analysis results saved to DynamoDB: {name.str} -> {sentiment.str}"
    respond 200 (.map (head ++ [("scores", .map scores),
      ("message", .text "Sentiment results saved successfully")]))

def saveOrRetrieve (s : Setting) (event : Value) : Flow Value :=
  answered "saving/retrieving sentiment results" "Failed to save/retrieve sentiment results" do
    log .info "Processing sentiment save/retrieve request"
    let table ← needed s "SENTIMENT_TABLE"
    let method ← event.getD "httpMethod" (.text "")
    if method.same (.text "GET") then retrieve table event else save s table event

end Unbundle.Document.Logged
