import Shortlist.Telemetry.Signal

/-!
# Metrics

The series that the service counts, and their values after a list of signals. A series exists once
something has been counted on it, even if that was zero. Counters add up; the size of the cache is
a gauge and keeps its latest value; of the duration of catalog calls only the number of samples is
kept here.
-/

namespace Shortlist

/-- A series of measurements. -/
inductive Series where
  /-- Products recommended. -/
  | recommendations
  /-- Ids held by the cache. -/
  | cacheSize
  /-- Requests served from what the cache holds. -/
  | cacheHits
  /-- Requests that refreshed the cache. -/
  | cacheMisses
  /-- Refreshes that dropped ids. -/
  | cacheTruncations
  /-- Ids dropped. -/
  | cacheEvictions
  /-- Catalog calls that came back, by whether they brought a listing. -/
  | catalogRequests (ok : Bool)
  /-- Samples of the duration of catalog calls. -/
  | catalogDuration
  /-- Flags that fell back to the caller's default. -/
  | flagFallbacks (flag : String)
  deriving DecidableEq, Repr

namespace Series

/-- The label of recommendations that were drawn from the catalog. -/
def catalogLabel : String := "catalog"

/-- The name of a series. -/
def name : Series → String
  | recommendations => "curator_recommendations_total"
  | cacheSize => "curator_cache_size"
  | cacheHits => "curator_cache_hits_total"
  | cacheMisses => "curator_cache_misses_total"
  | cacheTruncations => "curator_cache_truncations_total"
  | cacheEvictions => "curator_cache_evictions_total"
  | catalogRequests _ => "curator_catalog_requests_total"
  | catalogDuration => "curator_catalog_request_duration_seconds"
  | flagFallbacks _ => "curator_flag_fallbacks_total"

/-- The label of a series, as name and value, if it has one. -/
def label? : Series → Option (String × String)
  | recommendations => some ("recommendation_type", catalogLabel)
  | catalogRequests ok => some ("status", if ok then "ok" else "error")
  | flagFallbacks flag => some ("flag", flag)
  | _ => none

end Series

/-- The values of the series that exist, in the order in which they came into being. -/
structure Metrics where
  entries : List (Series × Nat)
  deriving DecidableEq, Repr

namespace Metrics

/-- No series. -/
def empty : Metrics := ⟨[]⟩

/-- The value of a series that exists. -/
def value? (m : Metrics) (s : Series) : Option Nat := m.entries.lookup s

/-- The value of a series, zero if it does not exist. -/
def value (m : Metrics) (s : Series) : Nat := (m.value? s).getD 0

/-- Changes the value of a series, from zero if it does not exist yet. -/
def change (m : Metrics) (s : Series) (f : Nat → Nat) : Metrics :=
  ⟨if m.entries.any (·.1 = s) then
      m.entries.map fun e => if e.1 = s then (e.1, f e.2) else e
    else m.entries ++ [(s, f 0)]⟩

/-- Counts `n` on a series. -/
def add (m : Metrics) (s : Series) (n : Nat) : Metrics := m.change s (· + n)

/-- Sets a gauge. -/
def set (m : Metrics) (s : Series) (n : Nat) : Metrics := m.change s fun _ => n

/-- What a signal counts. -/
def record (m : Metrics) : Signal → Metrics
  | .flagDefaulted flag _ _ => m.add (.flagFallbacks flag) 1
  | .hit _ => m.add .cacheHits 1
  | .miss => m.add .cacheMisses 1
  | .listed _ _ => (m.add (.catalogRequests true) 1).add .catalogDuration 1
  | .listingFailed _ _ => (m.add (.catalogRequests false) 1).add .catalogDuration 1
  | .evicted _ _ count => (m.add .cacheTruncations 1).add .cacheEvictions count
  | .sized size => m.set .cacheSize size
  | .recommended _ _ _ products => m.add .recommendations products.length
  | .gateChosen _ _ | .flagEvaluated _ _ _ | .recommendAsked _ _ | .poolAsked _
  | .healthChecked _ => m

/-- The values after a list of signals. -/
def ofSignals (signals : List Signal) : Metrics := signals.foldl record empty

end Metrics

end Shortlist
