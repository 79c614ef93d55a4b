import AngzarrRouter.Router
import AngzarrRouter.Upcaster.Chains

open calls calls.MutCall
open angzarr_router.error angzarr_router.domain angzarr_router.policy angzarr_router.projector

namespace angzarr_router

section

variable [AngzarrProto]

namespace policy.PolicyDispatch

end policy.PolicyDispatch

namespace projector

variable {P : Type}

namespace ProjectorDispatch

end ProjectorDispatch

end projector

end

namespace router

variable [AngzarrProto] [BuildProfile] {ComponentDescriptor : Type}

end router

end angzarr_router
