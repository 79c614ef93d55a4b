import AngzarrRouter.Archlint.Scan.Scanned

open text archlint.model

namespace archlint.scan

variable {libs : String → Prop} {scanner : Scanner} {name home : String} {rest : List String}
  {depth : Nat}

section

variable {module : String} {info : ModuleInfo}

end

end archlint.scan
