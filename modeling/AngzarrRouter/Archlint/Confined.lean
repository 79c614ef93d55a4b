import AngzarrRouter.Archlint.Verdict

open calls
open text archlint.model archlint.rules archlint.scan archlint.syntax archlint.workspace

namespace archlint

section

variable {lib path name : String} {rest : List String}

end

section

variable {lib name why : String} {rest : List String} {scope : ScopeSel}

variable [Alphanumeric] {process : Process} {args : Args} {metadata : Metadata}
  {scanner : Scanner}

end

section

end

end archlint
