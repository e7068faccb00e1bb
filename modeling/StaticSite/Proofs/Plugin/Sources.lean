import StaticSite.Plugin.Source

/-!
# Sources that cannot be loaded

A source that cannot be loaded is reported, and the report is what the lists of rules and processors
of a site wait for. Two ways of failing end in another fault: the system may refuse to look for the
file, because a name or the whole path is too long, and the code of a module that is imported may
fail for a reason of its own.
-/

namespace StaticSite.Plugin.Library

open StaticSite.Text

variable {library : Library} {source : String} {fault : Fault}

/-- Loading the source ends in a fault that is no report about a plugin. -/
inductive Breaks (library : Library) (source : String) : Fault → Prop where
  | longName {reference selected : List Char}
      (cut : cutSource source.toList = (reference, selected)) (named : reference.isEmpty = false)
      (file : isFile reference = true)
      (bare : ((library.base ++ Path.ofList reference).segments.any
        fun segment => segment.toList.elem '\x00') = false)
      (long : library.disk.isTooLong (library.base ++ Path.ofList reference) = true) :
      Breaks library source .nameTooLong
  | code {reference selected : List Char} {fault : Fault}
      (cut : cutSource source.toList = (reference, selected)) (named : reference.isEmpty = false)
      (module : isFile reference = false)
      (ends : library.importBelow outermost ((splitOn ['.'] reference).map String.ofList)
        = .error fault)
      (notMissing : ∀ message, fault ≠ .importFailed message)
      (unreported : ∀ message, fault ≠ .plugin message) : Breaks library source fault

end StaticSite.Plugin.Library
