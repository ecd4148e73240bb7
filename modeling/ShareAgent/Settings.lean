import ShareAgent.Path
import ShareAgent.Span
import ShareAgent.Volume

/-! # Settings

Where an agent finds devices and mounts volumes, and how patient it is. -/
namespace ShareAgent

/-- The directories that hold devices and mounted volumes. -/
structure Layout where
  deviceRoot : Path
  mapperRoot : Path
  exportRoot : Path
  deriving DecidableEq, Repr

namespace Layout

/-- The environment variable that moves the directory of devices. -/
def deviceRootVariable : Text := "VOLSHARE_DEV_ROOT"

/-- The environment variable that moves the directory of mappings. -/
def mapperRootVariable : Text := "VOLSHARE_MAPPER_ROOT"

/-- The environment variable that moves the directory of mounts. -/
def exportRootVariable : Text := "VOLSHARE_EXPORT_ROOT"

/-- The directories of a host, moved by the environment where it names one. -/
def ofEnvironment (environment : Text → Option Text) : Layout where
  deviceRoot := ⟨(environment deviceRootVariable).getD "/dev/longhorn"⟩
  mapperRoot := ⟨(environment mapperRootVariable).getD "/dev/mapper"⟩
  exportRoot := ⟨(environment exportRootVariable).getD "/export"⟩

/-- The directories of a host. -/
def standard : Layout := ofEnvironment fun _ => none

/-- All directories below one root. -/
def below (root : Path) : Layout where
  deviceRoot := root.join "dev/longhorn"
  mapperRoot := root.join "dev/mapper"
  exportRoot := root.join "export"

/-- The device of a volume, before decryption. -/
def rawDevice (l : Layout) (volume : Text) : Path := l.deviceRoot.join volume

/-- The mapping of an encrypted volume, after decryption. -/
def mappedDevice (l : Layout) (volume : Text) (engine : DataEngine) : Path :=
  l.mapperRoot.join (Volume.mappingName volume engine)

/-- The device that holds the filesystem of a volume. -/
def device (l : Layout) (volume : Text) (engine : DataEngine) (encrypted : Bool) : Path :=
  if encrypted then l.mappedDevice volume engine else l.rawDevice volume

/-- The directory where a volume is mounted, which is also the exported one. -/
def mountPath (l : Layout) (volume : Text) : Path := l.exportRoot.join volume

end Layout

/-- The process name of the NFS server. -/
def defaultServer : Text := "ganesha.nfsd"

/-- The export configuration of the NFS server. -/
def defaultExportConfig : Path := "/tmp/vfs.conf"

/-- The shortest time between two health updates. -/
def shortestWatchInterval : Span := .ofMilliseconds 100

/-- How an agent works. -/
structure Settings where
  layout : Layout
  exportConfig : Path
  exportServer : Text
  processRoot : Path
  unmountRetries : Nat
  unmountRetryInterval : Span
  commandTimeout : Span
  watchInterval : Span
  deriving DecidableEq, Repr

namespace Settings

/-- The settings of a host with these directories. -/
def standard (layout : Layout) : Settings where
  layout := layout
  exportConfig := defaultExportConfig
  exportServer := defaultServer
  processRoot := "/proc"
  unmountRetries := 30
  unmountRetryInterval := .ofSeconds 1
  commandTimeout := .ofSeconds 60
  watchInterval := .ofSeconds 1

/-- Sets the time between health updates, which cannot be shorter than the shortest. -/
def withWatchInterval (s : Settings) (interval : Span) : Settings :=
  { s with watchInterval := interval.longer shortestWatchInterval }

end Settings
end ShareAgent
