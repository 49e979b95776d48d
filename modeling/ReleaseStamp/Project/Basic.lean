import ReleaseStamp.Config
import ReleaseStamp.Layout

/-!
# Projects

A project is a configuration and the layout of its files.
-/
namespace ReleaseStamp

structure Project where
  config : Config := {}
  layout : Layout
deriving DecidableEq, Repr

end ReleaseStamp
