import AllocTrace.Text.White

/-! The two record layouts of a trace and what is fixed by the layout alone. -/

namespace AllocTrace

/-- The record layout of a trace. -/
inductive Schema where
  /-- Sizes rounded to stride buckets. -/
  | stride
  /-- Raw sizes, each served through numbered proxies. -/
  | proxy
deriving DecidableEq

namespace Schema

def name : Schema → String
  | .stride => "stride"
  | .proxy => "proxy"

/-- The columns a phase file must have, in the order in which a record lists them. -/
def columns : Schema → List String
  | .stride => ["bucket", "count", "raw_bytes"]
  | .proxy =>
    ["raw_size", "alignment", "proxy_index", "count", "fallbacks", "raw_total_bytes",
      "stride_total_bytes"]

def reportHeaders : Schema → List String
  | .stride => ["bucket", "count", "raw_bytes", "peak"]
  | .proxy =>
    ["raw_size", "proxy", "count", "fallbacks", "raw_total", "stride_total", "peak"]

def hasStrideBytes : Schema → Bool
  | .stride => false
  | .proxy => true

def hasFallbacks : Schema → Bool
  | .stride => false
  | .proxy => true

/-- The column that only the proxy layout has decides. -/
def ofHeader (header : List String) : Schema :=
  if header.any fun name => Text.trim name == "proxy_index" then .proxy else .stride

end Schema

end AllocTrace
