/-!
# Descriptor categories

A descriptor tag has a meaning only relative to the place where the descriptor
stands. There are three places: the top level of private data, the inside of an
application request, and the inside of a vendor request.
-/

namespace OnDemand

/-- The place that gives a descriptor tag its meaning. -/
inductive DescriptorCategory where
  /-- The top level of private data. -/
  | generic
  /-- Inside an application request. -/
  | appRequest
  /-- Inside a vendor request. -/
  | vendorRequest
  deriving Repr, DecidableEq

def DescriptorCategory.name : DescriptorCategory → String
  | generic => "generic"
  | appRequest => "app-request"
  | vendorRequest => "vendor-request"

end OnDemand
