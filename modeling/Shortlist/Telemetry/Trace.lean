import Shortlist.Telemetry.Signal
import Shortlist.Text.Quoted

/-!
# Trace

The trace that the service writes of its signals: spans that are opened, fields recorded on them
later, and events with a level, a message and fields.
-/

namespace Shortlist

/-- The value of a field. -/
inductive FieldValue where
  | bool (b : Bool)
  | count (n : Nat)
  | text (s : String)
  deriving DecidableEq, Repr

/-- The level of an event. -/
inductive Level where
  | debug | info | warn
  deriving DecidableEq, Repr

/-- The name of a level. -/
def Level.name : Level → String
  | debug => "DEBUG"
  | info => "INFO"
  | warn => "WARN"

/-- One line of the trace. -/
inductive TraceRecord where
  /-- A span was opened with these fields. -/
  | span (name : String) (fields : List (String × FieldValue))
  /-- A field of an open span got its value. -/
  | recorded (span field : String) (value : FieldValue)
  /-- An event. -/
  | event (level : Level) (message : String) (fields : List (String × FieldValue))
  deriving DecidableEq, Repr

namespace TraceRecord

/-- The span of a request for its pool. -/
def poolSpan : String := "product_cache.get_pool"

/-- The span of a request for recommendations. -/
def recommendSpan : String := "recommender.recommend"

/-- The products of an answer, as the trace lists them. -/
def productList (products : List ProductId) : String :=
  "[" ++ String.intercalate ", " (products.map fun p => "ProductId(" ++ Text.quote p.text ++ ")")
    ++ "]"

/-- An optional text, as the trace shows it. -/
def optional : Option String → String
  | none => "None"
  | some s => "Some(" ++ Text.quote s ++ ")"

/-- The lines that a signal writes. -/
def ofSignal : Signal → List TraceRecord
  | .gateChosen gate flag =>
    [.event .info "flag gate configured" [("provider", .text gate), ("flag", .text flag)]]
  | .flagEvaluated flag enabled variant =>
    [.event .debug "flag evaluated"
      [("flag", .text flag), ("enabled", .bool enabled), ("variant", .text (optional variant))]]
  | .flagDefaulted flag default fault =>
    [.event .warn "flag evaluation failed, using default"
      [("flag", .text flag), ("default", .bool default), ("error", .text fault.message)]]
  | .recommendAsked user mode =>
    [.span recommendSpan
      [("user_id", .text user), ("app.recommendation.cache_enabled", .bool mode.isEnabled)]]
  | .poolAsked mode =>
    [.span poolSpan
      [("mode", .text mode.name), ("app.recommendation.cache_enabled", .bool mode.isEnabled)]]
  | .hit size =>
    [.recorded poolSpan "app.cache_hit" (.bool true),
      .recorded poolSpan "app.cache.size" (.count size),
      .event .debug "cache hit" [("size", .count size)]]
  | .miss =>
    [.recorded poolSpan "app.cache_hit" (.bool false),
      .event .debug "cache miss, refreshing from catalog" []]
  | .listed catalog count =>
    [.event .debug "catalog listed" [("catalog", .text catalog), ("count", .count count)]]
  | .listingFailed catalog fault =>
    [.event .warn "catalog request failed"
      [("catalog", .text catalog), ("error", .text fault.message)]]
  | .evicted size limit count =>
    [.event .warn "cache exceeded limit, evicted oldest entries"
        [("size", .count size), ("limit", .count limit), ("evicted", .count count)],
      .recorded poolSpan "app.cache.truncated" (.bool true)]
  | .sized size => [.recorded poolSpan "app.cache.size" (.count size)]
  | .recommended user pool available products =>
    [.recorded recommendSpan "app.products.count" (.count pool),
      .recorded recommendSpan "app.filtered_products.count" (.count available),
      .recorded recommendSpan "app.products_recommended.count" (.count products.length),
      .event .info "list recommendations"
        [("user_id", .text user), ("products", .text (productList products))]]
  | .healthChecked service => [.event .debug "health check" [("service", .text service)]]

/-- The lines that a list of signals writes. -/
def ofSignals (signals : List Signal) : List TraceRecord := signals.flatMap ofSignal

end TraceRecord

end Shortlist
