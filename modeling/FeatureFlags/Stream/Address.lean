import FeatureFlags.Url.Reader

/-!
# The address of a stream

A stream is found beside the base address of a service, which is read as the address of a folder.
-/

namespace FeatureFlags

/-- The base address unless another one is given. -/
def defaultBase : String := "https://stream.launchdarkly.com"

/-- The last segment of the path of a stream. -/
def streamName : String := "all"

/-- A text that ends in a slash. -/
def withSlash (base : String) : String :=
  if base.toList.getLast? = some '/' then base else base ++ "/"

/-- The address of the stream of a service. -/
def streamUrl (base : String) : Except UrlError Url := do
  let folder ← Url.ofText (withSlash base)
  folder.sibling streamName

end FeatureFlags
