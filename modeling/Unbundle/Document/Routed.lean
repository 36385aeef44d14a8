import Unbundle.Document.Passage

/-!
# Documents from several sources

An event may be a request over the web, a list of records, or the document itself.
-/

namespace Unbundle.Document.Routed

open Service

def respond (status : Int) (body : Value) : Flow Value := do
  return answer status jsonHeaders (← body.toJson)

def answered (flow : Flow Value) : Flow Value :=
  flow.attempt fun e => respond 500 (message "error" e.message)

inductive Source where
  /-- The body of a request, read as JSON if it is text. -/
  | request (body : Value)
  /-- The first of several records. -/
  | record (record : Value)
  | direct (event : Value)

def Source.of (event : Value) : Except Fault Source := do
  if ← event.holdsName "body" then
    match ← event.field "body" with
    | .text t => return .request (← (Value.text t).parsed)
    | body => return .request body
  else if ← event.holdsName "Records" then
    return .record (← (← event.field "Records").item (.int 0))
  else return .direct event

def contentOf (v : Value) (default : String) : Except Fault (Value × Value) := do
  let content ← v.getD "content" (.text "")
  let name ← v.getD "filename" (.text default)
  return (content, name)

def passageOf (event : Value) : Except Fault (Value × Value) := do
  match ← Source.of event with
  | .request v | .direct v => contentOf v "unknown.txt"
  | .record r =>
    if ← r.holdsName "body" then
      let text ← r.field "body"
      let name ← r.getD "filename" (.text "unknown.txt")
      return (text, name)
    else return (← r.toJson, .text "record.json")

def previewLength : Nat := 100

def preview (cs : List Char) : List Char :=
  if previewLength < cs.length then cs.take previewLength ++ "...".toList else cs

def analyze (event : Value) : Flow Value := answered do
  let (text, name) ← passageOf event
  let passage := fit (← charsOf text)
  let mood ← Mood.ofPassage passage
  respond 200 (.map [("filename", name), ("Sentiment", mood.sentiment),
    ("SentimentScore", mood.scores), ("text_preview", .ofChars (preview passage))])

def documentOf (event : Value) : Flow (Value × Value) := do
  match ← Source.of event with
  | .request v | .direct v => contentOf v "unknown.md"
  | .record r =>
    let place ← r.field "s3"
    let bucket ← (← place.field "bucket").field "name"
    let key ← (← place.field "object").field "key"
    let reply ← Flow.client "s3" "get_object" [("Bucket", bucket), ("Key", key)]
    let document ← (← (← reply.field "Body").readAll).decoded
    return (document, key)

def convert (event : Value) : Flow Value := answered do
  let (document, name) ← documentOf event
  let page ← toPage document
  let length ← document.length
  respond 200 (.map [("filename", name), ("html_content", page),
    ("original_content_length", .int length)])

def moodOf (event : Value) : Except Fault Value := do
  match ← Source.of event with
  | .request v | .direct v => return v
  | .record r =>
    if ← r.holdsName "Sns" then (← (← r.field "Sns").field "Message").parsed
    else return r

def neutralScores : Value :=
  .map [("Positive", .float 0.0), ("Negative", .float 0.0), ("Neutral", .float 1.0),
    ("Mixed", .float 0.0)]

def tableOf (s : Setting) : String :=
  (s.get? "SENTIMENT_TABLE").getD "ref-arch-fileprocessing-sentiment"

def save (s : Setting) (event : Value) : Flow Value := answered do
  let mood ← moodOf event
  let name ← mood.getD "filename" (.text "unknown")
  let sentiment ← mood.getD "Sentiment" (.text "NEUTRAL")
  let scores ← mood.getD "SentimentScore" neutralScores
  let id ← Flow.identifier
  let positive ← scores.getD "Positive" (.float 0.0)
  let content ← mood.getD "text_preview" (.text "")
  let page ← mood.getD "html_content" (.text "")
  let texts ← scoreTexts scores
  let _ ← Flow.ask (tableOf s) (.put ([("id", .text id), ("timestamp", .int s.now.wholeSeconds),
    ("filename", name), ("sentiment_label", sentiment), ("sentiment_score", positive),
    ("content", content), ("html_content", page)] ++ texts) none)
  respond 200 (.map [("message", .text "Sentiment saved successfully"), ("id", .text id),
    ("filename", name), ("sentiment", sentiment)])

end Unbundle.Document.Routed
