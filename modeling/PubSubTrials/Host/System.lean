import PubSubTrials.Host.Executable

/-!
# What every system has

The directories of a system, its devices, a few files about users and names, and its programs in
the places where they are looked for.
-/

namespace PubSubTrials

namespace Host

/-- Directories that every system has. -/
def directories : List (List String) :=
  ["bin", "boot", "dev", "etc", "home", "lib", "lib64", "media", "mnt", "opt", "proc", "root",
    "run", "sbin", "srv", "sys", "tmp", "usr", "var"].map (fun name => [name]) ++
  ["bin", "games", "include", "lib", "lib64", "libexec", "local", "sbin", "share", "src"].map
    (fun name => ["usr", name]) ++
  ["bin", "etc", "lib", "sbin", "share", "src"].map (fun name => ["usr", "local", name]) ++
  ["cache", "lib", "local", "lock", "log", "mail", "opt", "run", "spool", "tmp"].map
    (fun name => ["var", name]) ++
  [["dev", "fd"], ["dev", "pts"], ["dev", "shm"], ["etc", "default"], ["etc", "profile.d"]]

/-- Devices that every system has. -/
def devices : List (List String) :=
  ["null", "zero", "full", "random", "urandom", "tty", "stdin", "stdout", "stderr"].map
    (fun name => ["dev", name]) ++
  ["0", "1", "2"].map (fun name => ["dev", "fd", name])

/-- A file with lines. -/
def fileOfLines (lines : List String) : TreeNode :=
  .file (Text.encode (lines.flatMap (fun line => line.toList ++ ['\n'])))

/-- Files that every system has. -/
def usualFiles : List (List String × TreeNode) :=
  [(["etc", "passwd"], fileOfLines
      ["root:x:0:0:root:/root:/bin/bash", "daemon:x:1:1:daemon:/usr/sbin:/usr/sbin/nologin",
        "bin:x:2:2:bin:/bin:/usr/sbin/nologin", "sys:x:3:3:sys:/dev:/usr/sbin/nologin",
        "nobody:x:65534:65534:nobody:/nonexistent:/usr/sbin/nologin"]),
   (["etc", "group"], fileOfLines ["root:x:0:", "daemon:x:1:", "nogroup:x:65534:"]),
   (["etc", "shadow"], fileOfLines ["root:*:19000:0:99999:7:::"]),
   (["etc", "hosts"], fileOfLines ["127.0.0.1\tlocalhost"]),
   (["etc", "hostname"], fileOfLines ["localhost"]),
   (["etc", "shells"], fileOfLines ["/bin/sh", "/bin/bash", "/bin/dash"]),
   (["etc", "profile"], .file []), (["etc", "resolv.conf"], .file []),
   (["root", ".bashrc"], .file []), (["root", ".profile"], .file [])]

/-- The places of programs. -/
def programPlaces : List (List String) := [["bin"], ["usr", "bin"]]

/-- Files that hold programs. -/
def programFiles (names : List String) : List (List String × TreeNode) :=
  programPlaces.flatMap (fun place => names.map (fun name => (place ++ [name], Image.fileOf name)))

end Host

/-- The files of a system that has programs of given names, and nothing but what every system
has. -/
def FileTree.ofPrograms (names : List String) : FileTree where
  entries :=
    Host.directories.map (fun path => (path, .directory)) ++
      Host.devices.map (fun path => (path, .file [])) ++ Host.usualFiles ++
      Host.programFiles names
  working := []

end PubSubTrials
