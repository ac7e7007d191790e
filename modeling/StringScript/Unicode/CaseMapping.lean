import StringScript.Unicode.Table

/-!
# Case mappings

The upper-case and the lower-case form of single characters (Unicode 16.0). A table lists the
characters that map to one other character, rising: the distance to the character, and twice the
distance to its image, less one for an image that lies before it. Characters that map to several are
listed apart.
-/

namespace StringScript.Unicode

def readPairs (start : Nat) : List Nat → List (Nat × Nat)
  | distance :: shift :: rest =>
    let source := start + distance
    let image := if shift % 2 = 0 then source + shift / 2 else source - (shift + 1) / 2
    (source, image) :: readPairs source rest
  | _ => []

def upperPairs : List (Nat × Nat) := readPairs 0 <| numbers
  ["3f1;f1;f1;f1;f1;f1;f1;f1;f1;f1;f1;f1;f1;f1;f1;f1;f1;f1;f1;f1;f1;f1;f1;f1;f1;f1;1!1Gv1r1;f1",
   ";f1;f1;f1;f1;f1;f1;f1;f1;f1;f1;f1;f1;f1;f1;f1;f1;f1;f1;f1;f1;f1;g1;f1;f1;f1;f1;f1;f1;f7+gf",
   "gfgfgfgfgfgfgfgfgfgfgfgfgfgfgfgfgfgfgfgfgfgfgfgGwgfgfgfhfgfgfgfgfgfgfgfhfgfgfgfgfgfgfgfgfg",
   "fgfgfgfgfgfgfgfgfgfgfgfgfgfhfgfgffL(fDlhfgfhfjflfh6gjffBlf2M4gh8jhfgfgfhfkfhfjfgfhfjfg3xlf",
   "fhgffhgffhgfgfgfgfgfgfgfgff4%gfgfgfgfgfgfgfgfgfhffhgfjfgfgfgfgfgfgfgfgfgfgfgfgfgfgfgfgfgfg",
   "fgfjfgfgfgfgfgfgfgfgfpfhP3:fP3:gfkfgfgfgfgffP1:fP1)fP1?fFhfD!gD[fD[gD*gD<f2LN:jD[f2LN>gD%f",
   "2LQvf2LLxf2LNngFffFkf2LNnfNcvf2LNghFkgNc]fFphFrnNbvhF*g2LNlfF*j2LL=fF*f4pfFzfFzf4tlF<r2LKq",
   "f2LKj5m5n1sfgfjfj8jf8jf8j1w2rf2pf2pf2pg1;f1;f1;f1;f1;f1;f1;f1;f1;f1;f1;f1;f1;f1;f1;f1;f1;f",
   "1%f1;f1;f1;f1;f1;f1;f1;f1;f1;f3;f3%f3%g3!f3zj2%f3rfwgfgfgfgfgfgfgfgfgfgfgfgff5rf4;fvf7mg5;",
   "hfhf1<1;f1;f1;f1;f1;f1;f1;f1;f1;f1;f1;f1;f1;f1;f1;f1;f1;f1;f1;f1;f1;f1;f1;f1;f1;f1;f1;f1;f",
   "1;f1;f1;f1;f4;f4;f4;f4;f4;f4;f4;f4;f4;f4;f4;f4;f4;f4;f4;f4;gfgfgfgfgfgfgfgfgfgfgfgfgfgfgfg",
   "fgfqfgfgfgfgfgfgfgfgfgfgfgfgfgfgfgfgfgfgfgfgfgfgfgfgfgfgfhfgfgfgfgfgfgff%gfgfgfgfgfgfgfgfg",
   "fgfgfgfgfgfgfgfgfgfgfgfgfgfgfgfgfgfgfgfgfgfgfgfgfgfgfgfgfgfgfgfgfgfgfgfgfgfgfgf1+2;f2;f2;f",
   "2;f2;f2;f2;f2;f2;f2;f2;f2;f2;f2;f2;f2;f2;f2;f2;f2;f2;f2;f2;f2;f2;f2;f2;f2;f2;f2;f2;f2;f2;f",
   "2;f2;f2;f2;f2;2Vq5Xdf5Xdf5Xdf5Xdf5Xdf5Xdf5Xdf5Xdf5Xdf5Xdf5Xdf5Xdf5Xdf5Xdf5Xdf5Xdf5Xdf5Xdf5",
   "Xdf5Xdf5Xdf5Xdf5Xdf5Xdf5Xdf5Xdf5Xdf5Xdf5Xdf5Xdf5Xdf5Xdf5Xdf5Xdf5Xdf5Xdf5Xdf5Xdf5Xdf5Xdf5Xd",
   "f5Xdf5Xdh5Xdf5Xdf5XdR[wfwfwfwfwfw24hD6!fD6[fD6mfD6hfD6hfD6kfD5(fD2pf24Xjgf7w250nj7Gsz253x3",
   "*fgfgfgfgfgfgfgfgfgfgfgfgfgfgfgfgfgfgfgfgfgfgfgfgfgfgfgfgfgfgfgfgfgfgfgfgfgfgfgfgfgfgfgfgf",
   "gfgfgfgfgfgfgfgfgfgfgfgfgfgfgfgfgfgfgfgfgfgfgfgfgfgfgfgfgfgfl3<lfgfgfgfgfgfgfgfgfgfgfgfgfg",
   "fgfgfgfgfgfgfgfgfgfgfgfgfgfgfgfgfgfgfgfgfgfgfgfgfgfgfgfgfgfgfgfgfgfgffxfxfxfxfxfxfxfxpxfxf",
   "xfxfxfxrxfxfxfxfxfxfxfxpxfxfxfxfxfxfxfxpxfxfxfxfxfxsxgxgxgxpxfxfxfxfxfxfxfxp4=f4=f5sf5sf5s",
   "f5sf6nf6nf8df8df7df7df7?f7?1*xfxtG2p+xfxwxfxjvCp1(1g;f;f;f;f;f;f;f;f;f;f;f;f;f;f;f;kfVs1*f",
   "1*f1*f1*f1*f1*f1*f1*f1*f1*f1*f1*f1*f1*f1*f1*f1*f1*f1*f1*f1*f1*f1*f1*f1*f1*1Vm2;f2;f2;f2;f2",
   ";f2;f2;f2;f2;f2;f2;f2;f2;f2;f2;f2;f2;f2;f2;f2;f2;f2;f2;f2;f2;f2;f2;f2;f2;f2;f2;f2;f2;f2;f2",
   ";f2;f2;f2;f2;f2;f2;f2;f2;f2;f2;f2;f2;f2;gfjP2<fP2wgfgfgfmfhfrfgfgfgfgfgfgfgfgfgfgfgfgfgfgf",
   "gfgfgfgfgfgfgfgfgfgfgfgfgfgfgfgfgfgfgfgfgfgfgfgfgfgfgfgfgfgfgfgfgfgfgfpfgfkftG5;fG5;fG5;fG",
   "5;fG5;fG5;fG5;fG5;fG5;fG5;fG5;fG5;fG5;fG5;fG5;fG5;fG5;fG5;fG5;fG5;fG5;fG5;fG5;fG5;fG5;fG5;",
   "fG5;fG5;fG5;fG5;fG5;fG5;fG5;fG5;fG5;fG5;fG5;fG5;gG5;lG5;b8=fgfgfgfgfgfgfgfgfgfgfgfgfgfgfgf",
   "gfgfgfgfgfgfgf=fgfgfgfgfgfgfgfgfgfgfgfgfgf4nfgfgfgfgfgfgfjfgfgfgfgfgfgfgfgfgfgfgfgfgfgfgfg",
   "fgfgfgfgfgfgfgfgfgfgfgfgfgfgfrfgfhfgfgfgfgfkfkfgff3dhfgfgfgfgfgfgfgfgfgfsfgfgfgfgfgfgfgfkf",
   "gfhfjflfgfgf!fV%1T;%2CX;f2CX;f2CX;f2CX;f2CX;f2CX;f2CX;f2CX;f2CX;f2CX;f2CX;f2CX;f2CX;f2CX;f",
   "2CX;f2CX;f2CX;f2CX;f2CX;f2CX;f2CX;f2CX;f2CX;f2CX;f2CX;f2CX;f2CX;f2CX;f2CX;f2CX;f2CX;f2CX;f",
   "2CX;f2CX;f2CX;f2CX;f2CX;f2CX;f2CX;f2CX;f2CX;f2CX;f2CX;f2CX;f2CX;f2CX;f2CX;f2CX;f2CX;f2CX;f",
   "2CX;f2CX;f2CX;f2CX;f2CX;f2CX;f2CX;f2CX;f2CX;f2CX;f2CX;f2CX;f2CX;f2CX;f2CX;f2CX;f2CX;f2CX;f",
   "2CX;f2CX;f2CX;f2CX;f2CX;f2CX;f2CX;f2CX;f2CX;f2CX;f2CX;f2CX;NXg1;f1;f1;f1;f1;f1;f1;f1;f1;f1",
   ";f1;f1;f1;f1;f1;f1;f1;f1;f1;f1;f1;f1;f1;f1;f1;f1;16v2wf2wf2wf2wf2wf2wf2wf2wf2wf2wf2wf2wf2w",
   "f2wf2wf2wf2wf2wf2wf2wf2wf2wf2wf2wf2wf2wf2wf2wf2wf2wf2wf2wf2wf2wf2wf2wf2wf2wf2wf2w4p2wf2wf2",
   "wf2wf2wf2wf2wf2wf2wf2wf2wf2wf2wf2wf2wf2wf2wf2wf2wf2wf2wf2wf2wf2wf2wf2wf2wf2wf2wf2wf2wf2wf2",
   "wf2wf2wf2w4?2tf2tf2tf2tf2tf2tf2tf2tf2tf2tf2tg2tf2tf2tf2tf2tf2tf2tf2tf2tf2tf2tf2tf2tf2tf2tg",
   "2tf2tf2tf2tf2tf2tf2tg2tf2t1Sj3;f3;f3;f3;f3;f3;f3;f3;f3;f3;f3;f3;f3;f3;f3;f3;f3;f3;f3;f3;f3",
   ";f3;f3;f3;f3;f3;f3;f3;f3;f3;f3;f3;f3;f3;f3;f3;f3;f3;f3;f3;f3;f3;f3;f3;f3;f3;f3;f3;f3;f3;f3",
   ";3:1;f1;f1;f1;f1;f1;f1;f1;f1;f1;f1;f1;f1;f1;f1;f1;f1;f1;f1;f1;f1;f1;2T!1;f1;f1;f1;f1;f1;f1",
   ";f1;f1;f1;f1;f1;f1;f1;f1;f1;f1;f1;f1;f1;f1;f1;f1;f1;f1;f1;f1;f1;f1;f1;f1;f1;PDf1;f1;f1;f1;",
   "f1;f1;f1;f1;f1;f1;f1;f1;f1;f1;f1;f1;f1;f1;f1;f1;f1;f1;f1;f1;f1;f1;f1;f1;f1;f1;f1;f1;bPh2hf",
   "2hf2hf2hf2hf2hf2hf2hf2hf2hf2hf2hf2hf2hf2hf2hf2hf2hf2hf2hf2hf2hf2hf2hf2hf2hf2hf2hf2hf2hf2hf",
   "2hf2hf2h"]

def lowerPairs : List (Nat × Nat) := readPairs 0 <| numbers
  ["2f2df2df2df2df2df2df2df2df2df2df2df2df2df2df2df2df2df2df2df2df2df2df2df2df2df2d3l2df2df2df",
   "2df2df2df2df2df2df2df2df2df2df2df2df2df2df2df2df2df2df2df2dg2df2df2df2df2df2df2d1ggggggggg",
   "gggggggggggggggggggggggggggggggggggggggjggggghggggggggggggggghgggggggggggggggggggggggggggg",
   "gggggggggggggggggg7zfgggggjFjfggggD?fggD]fD]fgh4:fD=fD>fggD]fD:gFlfFgfgjFlfFqgFsfggggggF=f",
   "ggF=hggF=fggF+fF+fggggF>fgjgnjfggjfggjfggggggggggggggggghggggggggggggggggghjfgggg6ff3wfggg",
   "ggggggggggggggggggggggggggggggggggggg8hggggggggggggggggggnP2>fggBkfP2xhggDkf4qf4vfgggggggg",
   "g9ggggjgp7nm2sg2qf2qf2qg4dg3:f3:g2df2df2df2df2df2df2df2df2df2df2df2df2df2df2df2df2dg2df2df",
   "2df2df2df2df2df2df2d1jxpgggggggggggggggggggggggl3(hggtfgh8hf8hf8hf5df5df5df5df5df5df5df5df",
   "5df5df5df5df5df5df5df5df2df2df2df2df2df2df2df2df2df2df2df2df2df2df2df2df2df2df2df2df2df2df",
   "2df2df2df2df2df2df2df2df2df2d1zgggggggggggggggggggggggggggggggggqggggggggggggggggggggggggg",
   "ggggggggggggggggggggggggggggg:fggggggggggggghggggggggggggggggggggggggggggggggggggggggggggg",
   "ggggggggggggggggggggggggggggggggggggggggggggggggggh3df3df3df3df3df3df3df3df3df3df3df3df3df",
   "3df3df3df3df3df3df3df3df3df3df3df3df3df3df3df3df3df3df3df3df3df3df3df3df3d2VqG6dfG6dfG6dfG",
   "6dfG6dfG6dfG6dfG6dfG6dfG6dfG6dfG6dfG6dfG6dfG6dfG6dfG6dfG6dfG6dfG6dfG6dfG6dfG6dfG6dfG6dfG6d",
   "fG6dfG6dfG6dfG6dfG6dfG6dfG6dfG6dfG6dfG6dfG6dfG6dgG6dlG6dQ*2CZdf2CZdf2CZdf2CZdf2CZdf2CZdf2C",
   "Zdf2CZdf2CZdf2CZdf2CZdf2CZdf2CZdf2CZdf2CZdf2CZdf2CZdf2CZdf2CZdf2CZdf2CZdf2CZdf2CZdf2CZdf2C",
   "Zdf2CZdf2CZdf2CZdf2CZdf2CZdf2CZdf2CZdf2CZdf2CZdf2CZdf2CZdf2CZdf2CZdf2CZdf2CZdf2CZdf2CZdf2C",
   "Zdf2CZdf2CZdf2CZdf2CZdf2CZdf2CZdf2CZdf2CZdf2CZdf2CZdf2CZdf2CZdf2CZdf2CZdf2CZdf2CZdf2CZdf2C",
   "Zdf2CZdf2CZdf2CZdf2CZdf2CZdf2CZdf2CZdf2CZdf2CZdf2CZdf2CZdf2CZdf2CZdf2CZdf2CZdf2CZdf2CZdf2C",
   "Zdf2CZdfxfxfxfxfxfx24=gm5W;f5W;f5W;f5W;f5W;f5W;f5W;f5W;f5W;f5W;f5W;f5W;f5W;f5W;f5W;f5W;f5W",
   ";f5W;f5W;f5W;f5W;f5W;f5W;f5W;f5W;f5W;f5W;f5W;f5W;f5W;f5W;f5W;f5W;f5W;f5W;f5W;f5W;f5W;f5W;f",
   "5W;f5W;f5W;f5W;h5W;f5W;f5W;Bfggggggggggggggggggggggggggggggggggggggggggggggggggggggggggggg",
   "ggggggggggggggggggggggggggggggggggggggggggggggggggggggggggggggggggggggggggggggggggggggggqG",
   "W%gggggggggggggggggggggggggggggggggggggggggggggggggggggggggggggggggggggggggggggggggggggggg",
   "ggggggggqwfwfwfwfwfwfwfwpwfwfwfwfwfwrwfwfwfwfwfwfwfwpwfwfwfwfwfwfwfwpwfwfwfwfwfwswgwgwgwpw",
   "fwfwfwfwfwfwfw[wfwfwfwfwfwfwfwpwfwfwfwfwfwfwfwpwfwfwfwfwfwfwfwpwfwf4*f4*fzs5rf5rf5rf5rfzsw",
   "fwf6mf6mtwfwf6;f6;fts7;f7;f7!f7!fz9qGP[jJC%fJ4rm1)1v1df1df1df1df1df1df1df1df1df1df1df1df1d",
   "f1df1df1d=gT*1=f1=f1=f1=f1=f1=f1=f1=f1=f1=f1=f1=f1=f1=f1=f1=f1=f1=f1=f1=f1=f1=f1=f1=f1=f1=",
   "1Tz3df3df3df3df3df3df3df3df3df3df3df3df3df3df3df3df3df3df3df3df3df3df3df3df3df3df3df3df3df",
   "3df3df3df3df3df3df3df3df3df3df3df3df3df3df3df3df3df3df3d1zggNctf7GrfNbthggggggP1(fNc[fP1%f",
   "P1!gghgpP3%fP3%fgggggggggggggggggggggggggggggggggggggggggggggggggggggggggggggggggggggggggg",
   "gggggggggggggggggggggggggpgggkgbBvggggggggggggggggggggggggggggggggggggggggggggg=gggggggggg",
   "ggggggggggggggggg4ngggggggggggggjggggggggggggggggggggggggggggggggggggggggggggggggggggggggg",
   "ggggrgggg250mfgggggggggkgg2LLwhgggjgggggggggggggggggggg2LNmf2LN%f2LN<f2LNff2LNmg2LKhf2LL*f",
   "2LKpf1Vdfgggggggggggggggg2;f2LNkf253wfgggg2LQtfgjglgggggg2M4f[gPTs2df2df2df2df2df2df2df2df",
   "2df2df2df2df2df2df2df2df2df2df2df2df2df2df2df2df2df2d16l2xf2xf2xf2xf2xf2xf2xf2xf2xf2xf2xf2",
   "xf2xf2xf2xf2xf2xf2xf2xf2xf2xf2xf2xf2xf2xf2xf2xf2xf2xf2xf2xf2xf2xf2xf2xf2xf2xf2xf2xf2x4p2xf",
   "2xf2xf2xf2xf2xf2xf2xf2xf2xf2xf2xf2xf2xf2xf2xf2xf2xf2xf2xf2xf2xf2xf2xf2xf2xf2xf2xf2xf2xf2xf",
   "2xf2xf2xf2xf2x4%2vf2vf2vf2vf2vf2vf2vf2vf2vf2vf2vg2vf2vf2vf2vf2vf2vf2vf2vf2vf2vf2vf2vf2vf2v",
   "f2vg2vf2vf2vf2vf2vf2vf2vg2vf2v1Rr4df4df4df4df4df4df4df4df4df4df4df4df4df4df4df4df4df4df4df",
   "4df4df4df4df4df4df4df4df4df4df4df4df4df4df4df4df4df4df4df4df4df4df4df4df4df4df4df4df4df4df",
   "4df4d4:2df2df2df2df2df2df2df2df2df2df2df2df2df2df2df2df2df2df2df2df2df2d2T!2df2df2df2df2df",
   "2df2df2df2df2df2df2df2df2df2df2df2df2df2df2df2df2df2df2df2df2df2df2df2df2df2df2dPDf2df2df2",
   "df2df2df2df2df2df2df2df2df2df2df2df2df2df2df2df2df2df2df2df2df2df2df2df2df2df2df2df2df2dbP",
   "f2jf2jf2jf2jf2jf2jf2jf2jf2jf2jf2jf2jf2jf2jf2jf2jf2jf2jf2jf2jf2jf2jf2jf2jf2jf2jf2jf2jf2jf2j",
   "f2jf2jf2jf2j"]

def upperStrings : List (Nat × List Nat) := [
  (0x00DF, [0x0053, 0x0053]), (0x0149, [0x02BC, 0x004E]), (0x01F0, [0x004A, 0x030C]),
  (0x0390, [0x0399, 0x0308, 0x0301]), (0x03B0, [0x03A5, 0x0308, 0x0301]),
  (0x0587, [0x0535, 0x0552]), (0x1E96, [0x0048, 0x0331]), (0x1E97, [0x0054, 0x0308]),
  (0x1E98, [0x0057, 0x030A]), (0x1E99, [0x0059, 0x030A]), (0x1E9A, [0x0041, 0x02BE]),
  (0x1F50, [0x03A5, 0x0313]), (0x1F52, [0x03A5, 0x0313, 0x0300]),
  (0x1F54, [0x03A5, 0x0313, 0x0301]), (0x1F56, [0x03A5, 0x0313, 0x0342]),
  (0x1F80, [0x1F08, 0x0399]), (0x1F81, [0x1F09, 0x0399]), (0x1F82, [0x1F0A, 0x0399]),
  (0x1F83, [0x1F0B, 0x0399]), (0x1F84, [0x1F0C, 0x0399]), (0x1F85, [0x1F0D, 0x0399]),
  (0x1F86, [0x1F0E, 0x0399]), (0x1F87, [0x1F0F, 0x0399]), (0x1F88, [0x1F08, 0x0399]),
  (0x1F89, [0x1F09, 0x0399]), (0x1F8A, [0x1F0A, 0x0399]), (0x1F8B, [0x1F0B, 0x0399]),
  (0x1F8C, [0x1F0C, 0x0399]), (0x1F8D, [0x1F0D, 0x0399]), (0x1F8E, [0x1F0E, 0x0399]),
  (0x1F8F, [0x1F0F, 0x0399]), (0x1F90, [0x1F28, 0x0399]), (0x1F91, [0x1F29, 0x0399]),
  (0x1F92, [0x1F2A, 0x0399]), (0x1F93, [0x1F2B, 0x0399]), (0x1F94, [0x1F2C, 0x0399]),
  (0x1F95, [0x1F2D, 0x0399]), (0x1F96, [0x1F2E, 0x0399]), (0x1F97, [0x1F2F, 0x0399]),
  (0x1F98, [0x1F28, 0x0399]), (0x1F99, [0x1F29, 0x0399]), (0x1F9A, [0x1F2A, 0x0399]),
  (0x1F9B, [0x1F2B, 0x0399]), (0x1F9C, [0x1F2C, 0x0399]), (0x1F9D, [0x1F2D, 0x0399]),
  (0x1F9E, [0x1F2E, 0x0399]), (0x1F9F, [0x1F2F, 0x0399]), (0x1FA0, [0x1F68, 0x0399]),
  (0x1FA1, [0x1F69, 0x0399]), (0x1FA2, [0x1F6A, 0x0399]), (0x1FA3, [0x1F6B, 0x0399]),
  (0x1FA4, [0x1F6C, 0x0399]), (0x1FA5, [0x1F6D, 0x0399]), (0x1FA6, [0x1F6E, 0x0399]),
  (0x1FA7, [0x1F6F, 0x0399]), (0x1FA8, [0x1F68, 0x0399]), (0x1FA9, [0x1F69, 0x0399]),
  (0x1FAA, [0x1F6A, 0x0399]), (0x1FAB, [0x1F6B, 0x0399]), (0x1FAC, [0x1F6C, 0x0399]),
  (0x1FAD, [0x1F6D, 0x0399]), (0x1FAE, [0x1F6E, 0x0399]), (0x1FAF, [0x1F6F, 0x0399]),
  (0x1FB2, [0x1FBA, 0x0399]), (0x1FB3, [0x0391, 0x0399]), (0x1FB4, [0x0386, 0x0399]),
  (0x1FB6, [0x0391, 0x0342]), (0x1FB7, [0x0391, 0x0342, 0x0399]), (0x1FBC, [0x0391, 0x0399]),
  (0x1FC2, [0x1FCA, 0x0399]), (0x1FC3, [0x0397, 0x0399]), (0x1FC4, [0x0389, 0x0399]),
  (0x1FC6, [0x0397, 0x0342]), (0x1FC7, [0x0397, 0x0342, 0x0399]), (0x1FCC, [0x0397, 0x0399]),
  (0x1FD2, [0x0399, 0x0308, 0x0300]), (0x1FD3, [0x0399, 0x0308, 0x0301]),
  (0x1FD6, [0x0399, 0x0342]), (0x1FD7, [0x0399, 0x0308, 0x0342]),
  (0x1FE2, [0x03A5, 0x0308, 0x0300]), (0x1FE3, [0x03A5, 0x0308, 0x0301]),
  (0x1FE4, [0x03A1, 0x0313]), (0x1FE6, [0x03A5, 0x0342]), (0x1FE7, [0x03A5, 0x0308, 0x0342]),
  (0x1FF2, [0x1FFA, 0x0399]), (0x1FF3, [0x03A9, 0x0399]), (0x1FF4, [0x038F, 0x0399]),
  (0x1FF6, [0x03A9, 0x0342]), (0x1FF7, [0x03A9, 0x0342, 0x0399]), (0x1FFC, [0x03A9, 0x0399]),
  (0xFB00, [0x0046, 0x0046]), (0xFB01, [0x0046, 0x0049]), (0xFB02, [0x0046, 0x004C]),
  (0xFB03, [0x0046, 0x0046, 0x0049]), (0xFB04, [0x0046, 0x0046, 0x004C]),
  (0xFB05, [0x0053, 0x0054]), (0xFB06, [0x0053, 0x0054]), (0xFB13, [0x0544, 0x0546]),
  (0xFB14, [0x0544, 0x0535]), (0xFB15, [0x0544, 0x053B]), (0xFB16, [0x054E, 0x0546]),
  (0xFB17, [0x0544, 0x053D])]

def upperOf (c : Char) : List Char :=
  match upperStrings.lookup c.toNat, upperPairs.lookup c.toNat with
  | some image, _ => image.map Char.ofNat
  | none, some image => [Char.ofNat image]
  | none, none => [c]

/-- The lower-case form of a character that stands alone. The capital i with a dot above keeps its
dot. -/
def lowerOf (c : Char) : List Char :=
  if c.toNat = 0x130 then ['i', Char.ofNat 0x307]
  else
    match lowerPairs.lookup c.toNat with
    | some image => [Char.ofNat image]
    | none => [c]

end StringScript.Unicode
