import DebugRegisters.FileTree
import DebugRegisters.Text.Fields

/-!
# The standard file tree

What a program can rely on to find: the directories of the file hierarchy
standard with the files of the base system, the devices, the process table, and
the tree of the kernel's objects. A run may write wherever writing is possible at
all. Whatever is not listed is not there.
-/

set_option autoImplicit false

namespace DebugRegisters.FileTree

/-- The words of a text with single blanks. -/
def words (text : String) : List String :=
  (Text.fields ' ' text.toList).map String.ofList

def files (names : String) : List (String × FileNode) :=
  (words names).map fun name => (name, .file true)

/-- Files that cannot be opened for writing. -/
def fixedFiles (names : String) : List (String × FileNode) :=
  (words names).map fun name => (name, .file false)

/-- Directories in which nothing is known. -/
def directories (growth : Growth) (names : String) : List (String × FileNode) :=
  (words names).map fun name => (name, .directory growth [])

/-- The name of something that is there under a name that is not known. A slash is in
no name, so no path leads to it. -/
def unknownName : String := "/"

/-- Runs start some levels below the root, in a directory of their own. -/
def workingDirectory : List String :=
  [unknownName, unknownName, unknownName]

/-- Programs that a base system has. -/
def programs : List (String × FileNode) :=
  files ("[ awk base64 basename bash cat chgrp chmod chown cmp cp cut dash date dd df diff dir " ++
    "dirname du echo env expr false find grep gzip head hostname id install join ln ls md5sum " ++
    "mkdir mkfifo mknod mktemp more mount mv nice nl nohup nproc od passwd paste perl printf pwd " ++
    "readlink realpath rm rmdir sed seq sh sha256sum sleep sort split stat stty su sync tail tar " ++
    "tee test timeout touch tr true tty umount uname uniq wc which who whoami xargs yes")

def userFiles : FileNode :=
  .directory .free <|
    directories .free "games include lib64 libexec src" ++
    [("bin", .directory .free programs),
      ("sbin", .directory .free (files "chroot groupadd ldconfig useradd userdel")),
      ("lib", .directory .free (directories .free "apt dpkg systemd" ++ files "os-release")),
      ("share", .directory .free
        (directories .free ("base-files common-licenses debconf dict doc info locale man menu " ++
          "misc perl5 pixmaps tabset terminfo zoneinfo"))),
      ("local", .directory .free
        (directories .free "bin etc games include lib sbin src" ++
          [("share", .directory .free (directories .free "man")),
            ("man", .link ["usr", "local", "share", "man"])]))]

def configuration : FileNode :=
  .directory .free <|
    directories .free ("alternatives apt cron.daily default dpkg init.d kernel ld.so.conf.d " ++
      "logrotate.d opt pam.d profile.d rc0.d rc1.d rc2.d rc3.d rc4.d rc5.d rc6.d rcS.d security selinux " ++
      "skel ssl systemd terminfo update-motd.d") ++
    files ("adduser.conf bash.bashrc debconf.conf debian_version deluser.conf environment fstab " ++
      "gai.conf group gshadow host.conf hostname hosts issue issue.net ld.so.cache ld.so.conf " ++
      "libaudit.conf login.defs machine-id nsswitch.conf pam.conf passwd profile resolv.conf " ++
      "shadow shells subgid subuid") ++
    [("os-release", .link ["usr", "lib", "os-release"])]

def variableFiles : FileNode :=
  .directory .free <|
    directories .free "backups local mail opt tmp" ++
    [("cache", .directory .free (directories .free "apt debconf ldconfig")),
      ("lib", .directory .free
        (directories .free "apt misc pam" ++
          [("dpkg", .directory .free (directories .free "info" ++ files "status"))])),
      ("log", .directory .free (directories .free "apt" ++ files "dpkg.log")),
      ("spool", .directory .free [("mail", .link ["var", "mail"])]),
      ("run", .link ["run"]),
      ("lock", .link ["run", "lock"])]

def devices : FileNode :=
  .directory .free <|
    files "console full null ptmx random urandom zero" ++
    fixedFiles "tty" ++
    [("pts", .directory .deniedByName []),
      ("shm", .directory .free []),
      ("fd", .link ["proc", "self", "fd"]),
      ("stdin", .link ["proc", "self", "fd", "0"]),
      ("stdout", .link ["proc", "self", "fd", "1"]),
      ("stderr", .link ["proc", "self", "fd", "2"])]

/-! ## The process table -/

/-- What the process table shows of a thread. Where a thread is can be seen of some
threads only. -/
def threadEntries (places : List (String × FileNode)) : List (String × FileNode) :=
  places ++
  directories .barred "attr fdinfo" ++
  files ("arch_status auxv cgroup clear_refs cmdline comm cpuset environ gid_map io limits " ++
    "loginuid maps mem mountinfo mounts numa_maps oom_adj oom_score oom_score_adj pagemap " ++
    "personality projid_map sched schedstat sessionid setgroups smaps smaps_rollup stack stat " ++
    "statm status syscall uid_map wchan") ++
  fixedFiles "exe" ++
  [("fd", .directory .barred (files "0 1 2")),
    ("net", .directory .barred
      (directories .barred "stat" ++
        files "netstat snmp sockstat" ++
        fixedFiles "arp dev if_inet6 protocols raw route tcp tcp6 udp udp6 unix")),
    ("ns", .directory .barred (fixedFiles "cgroup ipc mnt net pid time user uts"))]

/-- What the process table shows of a process with a number. -/
def processEntries (number : String) (places : List (String × FileNode)) :
    List (String × FileNode) :=
  threadEntries places ++ directories .barred "map_files" ++
    files "autogroup coredump_filter mountstats timens_offsets timers timerslack_ns" ++
    [("task", .directory .barred [(number, .directory .barred (threadEntries places))])]

def kernelSettings : FileNode :=
  .directory .barred <|
    directories .barred "abi debug dev user" ++
    [("kernel", .directory .barred
        (directories .barred "keys pty usermodehelper" ++
          files ("core_pattern core_uses_pid dmesg_restrict domainname hostname kptr_restrict " ++
            "msgmax msgmnb msgmni panic panic_on_oops perf_event_paranoid pid_max printk " ++
            "randomize_va_space sem shmall shmmax shmmni threads-max") ++
          fixedFiles "cap_last_cap ngroups_max osrelease ostype version" ++
          [("random", .directory .barred
            (files "urandom_min_reseed_secs write_wakeup_threshold" ++
              fixedFiles "boot_id entropy_avail poolsize uuid"))])),
      ("fs", .directory .barred
        (directories .barred "epoll inotify mqueue" ++
          files ("aio-max-nr file-max nr_open pipe-max-size protected_hardlinks " ++
            "protected_symlinks suid_dumpable") ++
          fixedFiles "aio-nr dentry-state file-nr inode-nr inode-state")),
      ("net", .directory .barred (directories .barred "core ipv4 ipv6 unix")),
      ("vm", .directory .barred
        (files ("dirty_background_ratio dirty_ratio drop_caches max_map_count min_free_kbytes " ++
          "mmap_min_addr overcommit_memory overcommit_ratio swappiness vfs_cache_pressure")))]

/-- The process table, as a run with an unknown number sees it. -/
def processTable : FileNode :=
  .directory .barred <|
    directories .barred "bus driver irq sysvipc tty" ++
    files ("buddyinfo cgroups cmdline consoles cpuinfo crypto devices diskstats dma execdomains " ++
      "filesystems interrupts iomem ioports kallsyms key-users keys kmsg kpagecgroup kpagecount " ++
      "kpageflags loadavg locks meminfo misc pagetypeinfo partitions slabinfo softirqs stat " ++
      "swaps timer_list uptime version vmallocinfo vmstat zoneinfo") ++
    [("sys", kernelSettings),
      ("fs", .directory .barred []),
      ("1", .directory .barred (processEntries "1" [])),
      (unknownName, .directory .barred
        (processEntries unknownName [("cwd", .link workingDirectory), ("root", .link [])])),
      ("self", .link ["proc", unknownName]),
      ("thread-self", .link ["proc", unknownName, "task", unknownName]),
      ("mounts", .link ["proc", "self", "mounts"]),
      ("net", .link ["proc", "self", "net"])]

/-! ## The whole tree -/

def kernelObjects : FileNode :=
  .directory .denied <|
    directories .denied "block bus dev firmware module" ++
    [("class", .directory .denied (directories .denied "block mem misc net tty")),
      ("devices", .directory .denied (directories .denied "platform system virtual")),
      ("fs", .directory .denied (directories .free "cgroup")),
      ("kernel", .directory .denied
        (directories .denied "mm" ++ fixedFiles "notes uevent_seqnum")),
      ("power", .directory .denied (files "state"))]

def standard : FileNode :=
  .directory .free <|
    directories .free "boot home media mnt opt srv tmp" ++
    [("bin", .link ["usr", "bin"]),
      ("lib", .link ["usr", "lib"]),
      ("lib64", .link ["usr", "lib64"]),
      ("sbin", .link ["usr", "sbin"]),
      ("dev", devices),
      ("etc", configuration),
      ("proc", processTable),
      ("root", .directory .free (files ".bashrc .profile")),
      ("run", .directory .free (directories .free "lock")),
      ("sys", kernelObjects),
      (unknownName, .directory .free
        [(unknownName, .directory .free (directories .free unknownName))]),
      ("usr", userFiles),
      ("var", variableFiles)]

/-- The start of a walk from the root. -/
def fromRoot : Walk :=
  ⟨⟨[], standard⟩, linkLimit, false⟩

/-- The start of a walk from the working directory. -/
def fromWorkingDirectory : Walk :=
  match fromRoot.here.follow 0 workingDirectory with
  | some (here, _) => { fromRoot with here }
  | none => fromRoot

end DebugRegisters.FileTree
